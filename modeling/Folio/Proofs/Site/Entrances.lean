import Folio.Proofs.Render.Congruence
import Folio.Proofs.Site.History
import Folio.Proofs.Site.Places

/-!
Contract: one text by three ways in.

Owns: scopes with the same frames, apart from frames that bind nothing; pages of texts without front matter, and
pages without a layout; and that a text gives the same as the text of a page, as a text alone and as a page of its
own, whatever is refused in it included.

Does not own: texts that a layout or front matter adds something to.
-/

namespace Folio

open Folio.Text Folio.Template

/-! ## Frames that bind something -/

namespace Scope

/-- The frames that bind something, by their labels and bindings. -/
def bound (frames : List Frame) : List (String × Entries) :=
  frames.filterMap fun frame =>
    if frame.bindings.isEmpty then none else some (frame.label, frame.bindings)

theorem bound_cons (frame : Frame) (frames : List Frame) :
    bound (frame :: frames) =
      if frame.bindings.isEmpty then bound frames else (frame.label, frame.bindings) :: bound frames := by
  unfold bound
  rw [List.filterMap_cons]
  cases frame.bindings.isEmpty <;> rfl

/-- Only frames that bind something are looked into. -/
theorem findKey_bound (frames : List Frame) (key : Value) :
    findKey frames key = (bound frames).findSome? fun frame => Entries.at? frame.2 key := by
  induction frames with
  | nil => rfl
  | cons frame frames inductionHypothesis =>
      rw [findKey_cons, bound_cons, inductionHypothesis]
      cases isEmpty : frame.bindings with
      | nil => simp [Entries.at?]
      | cons entry entries =>
          simp only [List.isEmpty_cons, Bool.false_eq_true, if_false, List.findSome?_cons]
          cases Entries.at? (entry :: entries) key <;> rfl

/-- Two scopes that differ in frames that bind nothing at most: they need not be equally deep. -/
structure SameFrames (scope scope' : Scope) : Prop where
  frames : bound scope.chain = bound scope'.chain
  nesting : scope.nesting = scope'.nesting
  rooted : scope.chain = [] ↔ scope'.chain = []

namespace SameFrames

variable {scope scope' : Scope}

theorem findKey (same : scope.SameFrames scope') (key : Value) :
    Folio.findKey scope.chain key = Folio.findKey scope'.chain key := by
  rw [findKey_bound, findKey_bound, same.frames]

/-- Looking up any key tells such scopes no more apart than looking up a name does. -/
theorem lookupKey (same : scope.SameFrames scope') (key default : Value) :
    scope.lookupKey key default = scope'.lookupKey key default := by
  have sameKey := same.findKey key
  have rooted := same.rooted
  unfold Scope.lookupKey
  cases isChain : scope.chain with
  | nil =>
      rw [isChain] at rooted sameKey
      rw [rooted.1 rfl] at sameKey ⊢
  | cons frame frames =>
      cases isChain' : scope'.chain with
      | nil =>
          rw [isChain, isChain'] at rooted
          cases rooted.2 rfl
      | cons frame' frames' =>
          rw [isChain, isChain'] at sameKey
          cases key.unkeyable? with
          | some part => rfl
          | none => simp only [sameKey]

end SameFrames

theorem chain_extend (scope : Scope) (bindings : Entries) (label : String) :
    (scope.extend bindings label).chain = ⟨bindings, scope.current, label⟩ :: scope.chain :=
  scope.chain_enter bindings label

theorem SameFrames.extend {scope scope' : Scope} (same : scope.SameFrames scope') (bindings : Entries)
    (label : String) : (scope.extend bindings label).SameFrames (scope'.extend bindings label) where
  frames := by rw [chain_extend, chain_extend, bound_cons, bound_cons, same.frames]
  nesting := same.nesting
  rooted := by simp [chain_extend]

/-- A frame on top of others makes no difference if it binds nothing. -/
theorem sameFrames_extend_nil {scope : Scope} (rooted : scope.chain ≠ []) (label : String) :
    (scope.extend [] label).SameFrames scope where
  frames := by
    rw [chain_extend, bound_cons]
    rfl
  nesting := rfl
  rooted := by simp [chain_extend, rooted]

theorem isLikeness_sameFrames : IsLikeness SameFrames where
  resolve _ _ same name := same.findKey (.str name)
  enter _ _ same bindings label :=
    ⟨(same.extend bindings label).frames, congrArg (· + 1) same.nesting, (same.extend bindings label).rooted⟩

end Scope

/-- One more filter may be registered if it makes the same of scopes that are alike. -/
theorem FilterRegistry.Respects.put {registry : FilterRegistry} {alike : Scope → Scope → Prop}
    (respects : registry.Respects alike) {spec : FilterSpec}
    (isBlind : ∀ run, spec.action = .observing run → ∀ scope scope', alike scope scope' → run scope = run scope') :
    (registry.put spec).Respects alike := by
  intro other registered
  rcases List.mem_cons.1 registered with rfl | registered
  · exact isBlind
  · exact respects other (List.mem_filter.1 registered).1

/-- By way of any two faithful caches the same is found. -/
theorem Cache.Faithful.alike {library : Library} {cache cache' : Cache} (faithful : cache.Faithful library)
    (faithful' : cache'.Faithful library) : cache.Alike library cache' where
  page id := by
    have isRead := (library.pageWithId_settled id cache faithful).1
    have isRead' := (library.pageWithId_settled id cache' faithful').1
    rw [isRead, isRead']
  inline text := by
    have isRead := (inlineNodes_settled library text cache faithful).1
    have isRead' := (inlineNodes_settled library text cache' faithful').1
    rw [isRead, isRead']

/-! ## Pages of plain texts -/

/-- The fault, with the page that it was found in. -/
def Fault.foundIn (page : String) : Fault → Fault
  | .malformed error => .malformed { error with page := some page }
  | fault => fault

/-- A text without front matter and blank lines in front is its own body, from its first line on. -/
structure IsPlainText (text : String) : Prop where
  matter : FrontMatter.findBlock text.toList = none
  blankLines : (Page.dropBlankLines text).1 = 0

namespace Page

theorem locate_start (fault : Fault) (page : String) : locate fault page 0 0 = fault.foundIn page := by
  cases fault with
  | malformed error => simp [locate, Fault.foundIn, SyntaxError.inPage]
  | _ => rfl

theorem spanBlankLines_of_zero {lines : List (List Char)} (isZero : (spanBlankLines lines).1 = 0) :
    (spanBlankLines lines).2 = lines := by
  fun_cases spanBlankLines lines with
  | case1 line next lines isBlank count rest spanned =>
      rw [spanBlankLines, if_pos isBlank, spanned] at isZero
      cases isZero
  | case2 line next lines notBlank => rfl
  | case3 lines => rfl

theorem dropBlankLines_of_zero {text : String} (isZero : (dropBlankLines text).1 = 0) :
    (dropBlankLines text).2 = text := by
  have kept : (spanBlankLines (splitOn '\n' text.toList)).2 = splitOn '\n' text.toList :=
    spanBlankLines_of_zero isZero
  change String.ofList (joinWith '\n' (spanBlankLines (splitOn '\n' text.toList)).2) = text
  rw [kept, joinWith_splitOn, String.ofList_toList]

/-- A plain text is a page that has the nodes of the text and nothing else. -/
theorem parse_of_plain {text : String} (plain : IsPlainText text) (id path : String) :
    parse id path text =
      ((parseTemplate text).mapError (Fault.foundIn id)).map fun nodes => ⟨id, path, [], none, nodes⟩ := by
  have noMatter : FrontMatter.parse text (some id) = .ok (none, text) := by
    unfold FrontMatter.parse
    rw [plain.matter]
  have named : (fun fault => locate fault id 0 0) = Fault.foundIn id :=
    funext fun fault => locate_start fault id
  unfold parse
  rw [noMatter]
  change ((parseTemplate (dropBlankLines text).2).mapError fun fault =>
    locate fault id (0 + (dropBlankLines text).1) (text.length - (dropBlankLines text).2.length)) >>= _ = _
  rw [dropBlankLines_of_zero plain.blankLines, plain.blankLines, Nat.sub_self, named]
  cases parseTemplate text <;> rfl

theorem ofText_eq (text : String) :
    ofText text = ((parseTemplate text).mapError (Fault.foundIn inlineId)).map fun nodes =>
      ⟨inlineId, "", [], some FrontMatter.noLayout, nodes⟩ := by
  have named : (fun fault => locate fault inlineId 0 0) = Fault.foundIn inlineId :=
    funext fun fault => locate_start fault inlineId
  unfold ofText
  rw [named]
  cases parseTemplate text <;> rfl

end Page

/-! ## Pages without a layout -/

namespace Library

variable {library : Library}

/-- No file is there that a page would have as its layout: in its folder and in the folders above, what goes by
the name of layouts is missing, or is the page itself. -/
def HasNoLayout (library : Library) (id layoutName : String) : Prop :=
  ∀ folder ∈ Path.foldersUp id, library.readNamed (Path.join folder layoutName) = .ok none ∨
    ∃ page, library.readNamed (Path.join folder layoutName) = .ok (some page) ∧ page.id = id

theorem readNamed_of_missing {name id : String} (isId : library.pageId name = .ok id)
    (missing : firstText library.source (library.candidatePaths id) = .ok none) :
    library.readNamed name = .ok none := by
  unfold readNamed readPage
  rw [isId]
  dsimp only
  rw [missing]
  rfl

/-- A name that stands for nothing or for the page itself is passed over. -/
theorem firstOtherPage_settled_cons {id name : String} {names : List String} {result : Except Fault (Option Page)}
    (notOther : library.readNamed name = .ok none ∨ ∃ page, library.readNamed name = .ok (some page) ∧ page.id = id)
    (later : Settled library (library.firstOtherPage id names) result) :
    Settled library (library.firstOtherPage id (name :: names)) result := by
  have settled : Settled library (library.firstOtherPage id (name :: names))
      (library.readNamed name >>= fun _ => result) := by
    refine .bind (library.findPage_settled name) ?_
    intro found isFound
    rcases notOther with missing | ⟨page, isRead, isSelf⟩
    · cases missing.symm.trans isFound
      exact later
    · cases isRead.symm.trans isFound
      dsimp only
      rw [if_neg (by simp [isSelf])]
      exact later
  rcases notOther with missing | ⟨page, isRead, -⟩
  · rwa [missing] at settled
  · rwa [isRead] at settled

/-- Where every name stands for nothing or for the page itself there is no other page. -/
theorem firstOtherPage_settled_none {id : String} {names : List String}
    (noOther : ∀ name ∈ names, library.readNamed name = .ok none ∨
      ∃ page, library.readNamed name = .ok (some page) ∧ page.id = id) :
    Settled library (library.firstOtherPage id names) (.ok none) := by
  induction names with
  | nil => exact .pure none
  | cons name names inductionHypothesis =>
      obtain ⟨notOther, others⟩ := List.forall_mem_cons.1 noOther
      exact firstOtherPage_settled_cons notOther (inductionHypothesis others)

theorem findLayout_settled_none {page : Page} {layoutName : String}
    (noLayout : library.HasNoLayout page.id layoutName) (unnamed : page.layout = none) :
    Settled library (library.findLayout page layoutName) (.ok none) := by
  unfold findLayout
  rw [unnamed]
  apply firstOtherPage_settled_none
  intro name member
  obtain ⟨folder, isFolder, rfl⟩ := List.mem_map.1 member
  exact noLayout folder isFolder

theorem findLayout_settled_off {page : Page} {layoutName : String}
    (isOff : page.layout = some FrontMatter.noLayout) :
    Settled library (library.findLayout page layoutName) (.ok none) := by
  unfold findLayout
  rw [isOff]
  exact .pure none

/-- The file with the extension is the first one that is looked for, so it is the page. -/
theorem readKind_of_text {name id text : String} (isId : library.pageId name = .ok id)
    (isText : library.source.get? (id ++ library.extension) = .ok (some text)) (kind : String) :
    library.readKind name kind = Page.parse id (id ++ library.extension) text := by
  have comesFirst : ∃ others, library.candidatePaths id = (id ++ library.extension) :: others := by
    unfold candidatePaths
    split
    · rename_i isEmpty
      exact ⟨[], by rw [eq_of_beq isEmpty, String.append_empty]⟩
    · exact ⟨[id], rfl⟩
  obtain ⟨others, isFirst⟩ := comesFirst
  have read : library.readPage id = (Page.parse id (id ++ library.extension) text).map some := by
    unfold readPage
    rw [isFirst, firstText, isText]
    rfl
  unfold readKind readNamed
  rw [isId]
  dsimp only
  rw [read]
  cases Page.parse id (id ++ library.extension) text <;> rfl

end Library

/-! ## Renders -/

namespace Composer

variable {composer : Composer}

/-- The frame of a page without arguments binds nothing. -/
theorem sameFrames_pageScope (composer : Composer) {page : Page} (bare : page.arguments = [])
    (arguments : Entries) :
    (composer.pageScope page none arguments).SameFrames (composer.textScope arguments) := by
  have rooted : (Scope.ofRoot composer.settings.arguments rootLabel).chain ≠ [] := by
    rw [Scope.ofRoot, Scope.chain_extend]
    apply List.cons_ne_nil
  unfold pageScope textScope
  rw [bare]
  exact (Scope.sameFrames_extend_nil rooted ("page:" ++ page.id)).extend arguments argumentsLabel

theorem renderInLayout_none (composer : Composer) (page : Page) :
    composer.renderInLayout page none = composer.renderNodes (composer.levelsBelow .empty) page.nodes := by
  funext session
  unfold renderInLayout
  rw [Work.bind_apply]
  rcases composer.renderNodes (composer.levelsBelow .empty) page.nodes session with ⟨outcome, after⟩
  cases outcome <;> rfl

/-- A page without arguments and without a layout gives what its text gives. -/
theorem renderPage_eq_renderText (respects : composer.registry.Respects Scope.SameFrames) {page : Page}
    (bare : page.arguments = []) {text : String} (read : parseTemplate text = .ok page.nodes)
    (noLayout :
      Settled composer.library (composer.library.findLayout page composer.settings.layoutName) (.ok none))
    (arguments : Entries) {cache cache' : Cache} (faithful : cache.Faithful composer.library)
    (faithful' : cache'.Faithful composer.library) :
    (composer.renderPage page arguments cache).1 = (composer.renderText text arguments cache').1 := by
  obtain ⟨isNone, stillFaithful⟩ := noLayout cache faithful
  have agree : Agree (Session.Placed composer.library Scope.SameFrames) enterBoth (fun _ => False) composer
      composer :=
    composer.agree_placed Scope.isLikeness_sameFrames respects (fun _ _ isExcused => isExcused)
      composer.settings.maxDepth composer.settings.maxDepth
  have nodesAgree := agree.renderNodes rfl (composer.levelsBelow .empty) page.nodes
    (composer.pageScope page none arguments, composer.textScope arguments)
  have agrees := inScope_agrees (composer.sameFrames_pageScope bare arguments) nodesAgree
  have byPage : (composer.renderPage page arguments cache).1 =
      (inScope (composer.pageScope page none arguments)
        (composer.renderNodes (composer.levelsBelow .empty) page.nodes)
        (composer.library.findLayout page composer.settings.layoutName cache).2).1 := by
    unfold renderPage
    rw [Work.bind_apply]
    rcases isLayout : composer.library.findLayout page composer.settings.layoutName cache with ⟨outcome, after⟩
    rw [isLayout] at isNone
    cases isNone
    rw [← composer.renderInLayout_none]
  have byText : (composer.renderText text arguments cache').1 =
      (inScope (composer.textScope arguments)
        (composer.renderNodes (composer.levelsBelow .empty) page.nodes) cache').1 := by
    unfold renderText
    rw [read, Work.bind_apply]
    rfl
  rw [byPage, byText]
  exact (agrees.same (stillFaithful.alike faithful')).1

end Composer

namespace Site

theorem renderOnce_eq (site : Site) (text : String) (arguments : Entries) :
    (renderOnce text arguments site).1.map Prod.snd =
      (Page.ofText text >>= fun page => (site.frozenComposer.renderPage page arguments site.cache).1) := by
  have isWork : renderOnce text arguments =
      Work.ofExcept (Page.ofText text) >>= fun page => renderPage page arguments >>= fun rendered =>
        pure (page, rendered) := rfl
  rw [isWork, Work.bind_apply]
  cases Page.ofText text with
  | error fault => rfl
  | ok page =>
      change ((renderPage page arguments >>= fun rendered => pure (page, rendered)) site).1.map Prod.snd =
        (renderPage page arguments site).1
      rw [Work.bind_apply]
      rcases renderPage page arguments site with ⟨outcome, after⟩
      cases outcome <;> rfl

end Site

end Folio
