import Folio.Proofs.Audit.Search
import Folio.Proofs.Page
import Folio.Proofs.Render.Safety
import Folio.Proofs.Site.History
import Folio.Proofs.Text.Order

/-!
Contract: a site whose audit finds no problem renders without such problems.

Owns: templates that are clear, with all that they lead to; files that their own names lead back to; what an
audit without problems has seen; and that no render of such a site fails for a malformed text or an unknown
filter.

Does not own: the search inside one page, and renders of templates that are known to be permitted.
-/

namespace Folio

open Folio.Text Folio.Template

/-! ## Templates without problems -/

theorem Collects.trans {nodes between inner : List Node} (first : Collects nodes between)
    (second : Collects between inner) : Collects nodes inner := by
  induction second with
  | self => exact first
  | inside _ member read inductionHypothesis => exact .inside inductionHypothesis member read

/-- A template and all that it leads to name known filters, hand over texts that can be read, and repeat
texts only. -/
def IsClear (registry : FilterRegistry) (nodes : List Node) : Prop :=
  ∀ inner, Collects nodes inner →
    (∀ name ∈ filterNames inner, registry.contains name = true) ∧
      (∀ text ∈ inlineTemplates inner repeatingFilter, ∃ deeper, parseTemplate text = .ok deeper) ∧
        ∀ node ∈ inner, node.repeatsTexts = true

theorem IsClear.inside {registry : FilterRegistry} {nodes inner : List Node}
    (clear : IsClear registry nodes) (collected : Collects nodes inner) : IsClear registry inner :=
  fun deeper further => clear deeper (collected.trans further)

/-! ## Files -/

namespace Library

/-- The text that is found for a page is that of a file. -/
theorem file_of_firstText {files : List (String × String)} {paths : List String}
    {path text : String} (found : firstText (.memory files) paths = .ok (some (path, text))) :
    ∃ file, Path.normalize path = .ok file ∧ files.lookup file = some text := by
  induction paths with
  | nil => cases found
  | cons first paths inductionHypothesis =>
      obtain ⟨text', got, found⟩ := bind_eq_ok.1 found
      obtain ⟨file, normal, isText⟩ := bind_eq_ok.1 got
      cases text' with
      | some text' =>
          cases found
          exact ⟨file, normal, Except.ok.inj isText⟩
      | none => exact inductionHypothesis found

/-- Files in memory that can all be read as pages, with templates that are clear. -/
structure IsClear (library : Library) (registry : FilterRegistry) (files : List (String × String)) :
    Prop where
  source : library.source = .memory files
  page : ∀ file text, files.lookup file = some text →
    ∃ id path page, Page.parse id path text = .ok page ∧ Folio.IsClear registry page.nodes

section

variable {library : Library} {registry : FilterRegistry} {files : List (String × String)}

/-- A page is what the text that is found for it says. -/
theorem readPage_eq {id path text : String} {page : Page}
    (found : firstText library.source (library.candidatePaths id) = .ok (some (path, text)))
    (parsed : Page.parse id path text = .ok page) : library.readPage id = .ok (some page) := by
  refine bind_eq_ok.2 ⟨some (path, text), mapError_eq_ok.2 found, ?_⟩
  exact bind_eq_ok.2 ⟨page, parsed, rfl⟩

/-- Whatever a page is called, it is clear if it is there, and it can be read. -/
theorem IsClear.readPage (clear : library.IsClear registry files) (id : String) :
    (∀ page, library.readPage id = .ok (some page) → Folio.IsClear registry page.nodes) ∧
      ∀ fault, library.readPage id = .error fault → fault.IsDynamic := by
  cases isFound : firstText library.source (library.candidatePaths id) with
  | error cause =>
      unfold Library.readPage
      rw [isFound]
      refine ⟨fun _ => nofun, ?_⟩
      intro fault failed
      cases failed
      rfl
  | ok found =>
      cases found with
      | none =>
          unfold Library.readPage
          rw [isFound]
          exact ⟨fun _ => nofun, fun _ => nofun⟩
      | some located =>
          obtain ⟨path, text⟩ := located
          have inMemory := clear.source ▸ isFound
          obtain ⟨file, -, isText⟩ := file_of_firstText inMemory
          obtain ⟨id', path', page', parsed', isClear⟩ := clear.page file text isText
          obtain ⟨page, parsed, sameNodes⟩ := Page.parse_under parsed' id path
          rw [readPage_eq isFound parsed]
          refine ⟨?_, fun _ => nofun⟩
          intro other read
          cases read
          rwa [sameNodes]

theorem IsClear.readNamed (clear : library.IsClear registry files) (name : String) :
    (∀ page, library.readNamed name = .ok (some page) → Folio.IsClear registry page.nodes) ∧
      ∀ fault, library.readNamed name = .error fault → fault.IsDynamic := by
  unfold Library.readNamed
  cases library.pageId name with
  | ok id => exact clear.readPage id
  | error cause => exact ⟨fun _ => nofun, fun _ => nofun⟩

end

end Library

/-- The clear templates are ones that a composer over clear files may render. -/
theorem Library.IsClear.vets {composer : Composer} {files : List (String × String)}
    (clear : composer.library.IsClear composer.registry files)
    (tame : ∀ spec ∈ composer.registry.specs, spec.IsTame) :
    composer.Vets (Folio.IsClear composer.registry) where
  tame := tame
  known nodes isClear := (isClear nodes .self).1
  repeats nodes isClear := (isClear nodes .self).2.2
  inside nodes isClear text member := by
    obtain ⟨deeper, read⟩ := (isClear nodes .self).2.1 text member
    exact ⟨deeper, read, isClear.inside (.inside .self member read)⟩
  page name page := (clear.readNamed name).1 page
  readable name fault := (clear.readNamed name).2 fault

/-! ## What an audit without problems has seen -/

/-- Looking at a page reads it and changes nothing else. -/
theorem pageProblems_apply (id : String) (site : Site) :
    pageProblems id site =
      (match (site.library.getPage id Library.pageKind site.cache).1 with
        | .ok page =>
            (templateProblems site.registry page.nodes).map fun errors => errors.map (⟨id, ·⟩)
        | .error fault =>
            if fault.isTemplateFault then .ok [⟨id, fault.message⟩] else .error fault,
        { site with cache := (site.library.getPage id Library.pageKind site.cache).2 }) := by
  unfold pageProblems
  rw [Site.getPage_apply]
  rcases site.library.getPage id Library.pageKind site.cache with ⟨outcome, cache⟩
  cases outcome with
  | ok page => rfl
  | error fault =>
      dsimp only
      split
      · rfl
      · rfl

/-- A page without problems is there, and its template has none. -/
theorem page_of_pageProblems {id : String} {site : Site}
    (faithful : site.cache.Faithful site.library) (noProblem : (pageProblems id site).1 = .ok []) :
    ∃ page, site.library.readKind id Library.pageKind = .ok page ∧
      templateProblems site.registry page.nodes = .ok [] := by
  rw [pageProblems_apply,
    (site.library.getPage_settled id Library.pageKind site.cache faithful).1] at noProblem
  cases read : site.library.readKind id Library.pageKind with
  | ok page =>
      rw [read] at noProblem
      refine ⟨page, rfl, ?_⟩
      cases found : templateProblems site.registry page.nodes with
      | ok errors =>
          dsimp only at noProblem
          rw [found] at noProblem
          rw [List.map_eq_nil_iff.1 (Except.ok.inj noProblem)]
      | error fault =>
          dsimp only at noProblem
          rw [found] at noProblem
          cases noProblem
  | error fault =>
      rw [read] at noProblem
      dsimp only at noProblem
      split at noProblem
      · cases noProblem
      · cases noProblem

/-- Each page is looked at in the site that the pages before it leave. -/
theorem pages_of_problemsOf {ids : List String} {site : Site}
    (faithful : site.cache.Faithful site.library) (noProblem : (problemsOf ids site).1 = .ok []) :
    ∀ id ∈ ids, ∃ page, site.library.readKind id Library.pageKind = .ok page ∧
      templateProblems site.registry page.nodes = .ok [] := by
  induction ids generalizing site with
  | nil => exact nofun
  | cons id ids inductionHypothesis =>
      obtain ⟨first, firstFound, noProblem⟩ := Work.of_bind_eq_ok noProblem
      obtain ⟨rest, restFound, noProblem⟩ := Work.of_bind_eq_ok noProblem
      obtain ⟨rfl, rfl⟩ := List.append_eq_nil_iff.1 (Except.ok.inj noProblem)
      obtain ⟨same, stillFaithful⟩ := Site.Keeps.pageProblems id site faithful
      have others := inductionHypothesis (same.library ▸ stillFaithful) restFound
      rw [same.library, pageProblems_apply] at others
      exact List.forall_mem_cons.2 ⟨page_of_pageProblems faithful firstFound, others⟩

/-- The identity of every file that is a page is among those of the site. -/
theorem Library.id_of_file {library : Library} {files : List (String × String)} {ids : List String}
    (source : library.source = .memory files) (listed : library.pageIds = .ok ids)
    {file : String × String} (member : file ∈ files) (isPage : library.isPagePath file.1 = true) :
    ∃ id ∈ ids, library.pageId file.1 = .ok id := by
  obtain ⟨unsorted, mapped, listed⟩ := bind_eq_ok.1 listed
  cases listed
  have inSource : file.1 ∈ library.source.list.filter library.isPagePath := by
    rw [source, List.mem_filter]
    exact ⟨mem_sortTexts.2 (List.mem_map_of_mem member), isPage⟩
  obtain ⟨id, idMember, isId⟩ := mem_of_mapM mapped inSource
  exact ⟨id, mem_sortTexts.2 idMember, isId⟩

/-! ## Regular files -/

namespace Library

/-- The page of a file, found by the identity that the file has. -/
def readFile (library : Library) (file : String) : Except Fault (Option Page) :=
  match library.pageId file with
  | .ok id => library.readNamed id
  | .error _ => .ok none

/-- The identity of a file leads to the file itself. -/
def loadsItself (library : Library) (file : String) : Bool :=
  match library.pageId file >>= library.pageId with
  | .error _ => false
  | .ok id =>
      match firstText library.source (library.candidatePaths id) with
      | .ok (some (path, _)) => (Path.normalize path).toOption == some file
      | _ => false

/-- Files in memory that are all pages and load themselves, and whose templates, with all that they lead
to, repeat texts only. -/
structure IsRegular (library : Library) (files : List (String × String)) : Prop where
  source : library.source = .memory files
  isPage : ∀ file ∈ files, library.isPagePath file.1 = true
  loads : ∀ file ∈ files, library.loadsItself file.1 = true
  repeats : ∀ file ∈ files, ∀ page, library.readFile file.1 = .ok (some page) →
    ∀ nodes, Collects page.nodes nodes → ∀ node ∈ nodes, node.repeatsTexts = true

/-- A template repeats texts only, and so do the templates of so many generations inside it. No template is
left behind the last one. -/
def repeatTextsWithin : Nat → List Node → Bool
  | 0, _ => false
  | limit + 1, nodes =>
      nodes.all Node.repeatsTexts &&
        (inlineTemplates nodes repeatingFilter).all fun text =>
          match parseTemplate text with
          | .ok deeper => repeatTextsWithin limit deeper
          | .error _ => true

theorem repeatTextsWithin_collects {limit : Nat} {nodes inner : List Node}
    (within : repeatTextsWithin limit nodes = true) (collected : Collects nodes inner) :
    ∃ left, repeatTextsWithin left inner = true := by
  induction collected with
  | self => exact ⟨limit, within⟩
  | inside _ member read inductionHypothesis =>
      obtain ⟨left, within⟩ := inductionHypothesis
      cases left with
      | zero => cases within
      | succ left =>
          rw [repeatTextsWithin, Bool.and_eq_true, List.all_eq_true, List.all_eq_true] at within
          have deeperWithin := within.2 _ member
          rw [read] at deeperWithin
          exact ⟨left, deeperWithin⟩

theorem repeatsTexts_of_within {limit : Nat} {nodes inner : List Node}
    (within : repeatTextsWithin limit nodes = true) (collected : Collects nodes inner) :
    ∀ node ∈ inner, node.repeatsTexts = true := by
  obtain ⟨left, within⟩ := repeatTextsWithin_collects within collected
  cases left with
  | zero => cases within
  | succ left =>
      rw [repeatTextsWithin, Bool.and_eq_true, List.all_eq_true] at within
      exact within.1

/-- The check that files are regular. -/
def isRegularWithin (library : Library) (limit : Nat) (file : String) : Bool :=
  library.isPagePath file && library.loadsItself file &&
    match library.readFile file with
    | .ok (some page) => repeatTextsWithin limit page.nodes
    | _ => true

theorem IsRegular.of_check {library : Library} {files : List (String × String)} (limit : Nat)
    (source : library.source = .memory files)
    (checked : ∀ file ∈ files, library.isRegularWithin limit file.1 = true) :
    library.IsRegular files := by
  have parts : ∀ file ∈ files,
      (library.isPagePath file.1 = true ∧ library.loadsItself file.1 = true) ∧
        (match library.readFile file.1 with
          | .ok (some page) => repeatTextsWithin limit page.nodes
          | _ => true) = true := by
    intro file member
    have isRegular := checked file member
    rwa [isRegularWithin, Bool.and_eq_true, Bool.and_eq_true] at isRegular
  refine ⟨source, fun file member => (parts file member).1.1,
    fun file member => (parts file member).1.2, ?_⟩
  intro file member page read nodes collected
  have within := (parts file member).2
  rw [read] at within
  exact repeatsTexts_of_within within collected

/-- The page that is read for a file that loads itself is what the file says. -/
theorem parse_of_loadsItself {library : Library} {files : List (String × String)}
    (source : library.source = .memory files) {file id text : String} {page : Page}
    (loads : library.loadsItself file = true) (isText : files.lookup file = some text)
    (isId : library.pageId file = .ok id) (read : library.readNamed id = .ok (some page)) :
    ∃ again path, Page.parse again path text = .ok page := by
  unfold loadsItself at loads
  rw [isId] at loads
  unfold readNamed at read
  change (match library.pageId id with | .error _ => false | .ok id => _) = true at loads
  cases isAgain : library.pageId id with
  | error cause =>
      rw [isAgain] at loads
      cases loads
  | ok again =>
      rw [isAgain] at loads read
      obtain ⟨located, isFound, read⟩ := bind_eq_ok.1 read
      dsimp only at loads
      rw [mapError_eq_ok.1 isFound] at loads
      cases located with
      | none => cases loads
      | some located =>
          obtain ⟨path, text'⟩ := located
          obtain ⟨page', parsed, read⟩ := bind_eq_ok.1 read
          cases read
          have inMemory := source ▸ mapError_eq_ok.1 isFound
          obtain ⟨file', normal, isText'⟩ := file_of_firstText inMemory
          dsimp only at loads
          rw [normal] at loads
          obtain rfl : file' = file := by simpa [Except.toOption] using loads
          cases isText.symm.trans isText'
          exact ⟨again, path, parsed⟩

/-- An audit without problems has seen that regular files are clear. -/
theorem IsRegular.isClear {site : Site} {files : List (String × String)} {count : Nat}
    (regular : site.library.IsRegular files) (faithful : site.cache.Faithful site.library)
    (noProblems : (audit site).1 = .ok ⟨count, []⟩) :
    site.library.IsClear site.registry files where
  source := regular.source
  page := by
    intro file text isText
    have member : (file, text) ∈ files := by
      obtain ⟨before, after, rfl, -⟩ := List.lookup_eq_some_iff.1 isText
      exact List.mem_append_right _ List.mem_cons_self
    obtain ⟨ids, listed, noProblems⟩ := Work.of_bind_eq_ok noProblems
    obtain ⟨problems, found, noProblems⟩ := Work.of_bind_eq_ok noProblems
    cases noProblems
    obtain ⟨id, idMember, isId⟩ :=
      id_of_file regular.source (mapError_eq_ok.1 listed) member (regular.isPage _ member)
    obtain ⟨page, read, noProblem⟩ := pages_of_problemsOf faithful found id idMember
    have readNamed : site.library.readNamed id = .ok (some page) := by
      obtain ⟨found, readNamed, read⟩ := bind_eq_ok.1 read
      cases found with
      | none => cases read
      | some page' =>
          cases read
          exact readNamed
    have readFile : site.library.readFile file = .ok (some page) := by
      unfold Library.readFile
      rw [isId]
      exact readNamed
    obtain ⟨again, path, parsed⟩ :=
      parse_of_loadsItself regular.source (regular.loads _ member) isText isId readNamed
    refine ⟨again, path, page, parsed, fun nodes collected => ?_⟩
    obtain ⟨known, readable⟩ := collects_of_templateProblems noProblem collected
    exact ⟨known, readable, regular.repeats _ member page readFile nodes collected⟩

/-- What a registry knows is in its filters. -/
theorem IsClear.withFilters {library : Library} {registry other : FilterRegistry}
    {files : List (String × String)} (clear : library.IsClear registry files)
    (same : other.specs = registry.specs) : library.IsClear other files where
  source := clear.source
  page := by
    have sameKnown : ∀ name, other.contains name = registry.contains name := by
      intro name
      unfold FilterRegistry.contains FilterRegistry.find?
      rw [same]
    intro file text isText
    obtain ⟨id, path, page, parsed, isClear⟩ := clear.page file text isText
    refine ⟨id, path, page, parsed, fun nodes collected => ?_⟩
    obtain ⟨known, others⟩ := isClear nodes collected
    exact ⟨fun name named => (sameKnown name).trans (known name named), others⟩

end Library

/-! ## Renders behind an audit -/

namespace Site

/-- Renders of a site over clear files fail for dynamic reasons only, whatever has been read before. -/
theorem isDynamic_of_render {site : Site} {files : List (String × String)}
    (clear : site.library.IsClear site.registry files) (builtIn : site.registry.IsBuiltIn)
    (faithful : site.cache.Faithful site.library) (name : String) (arguments : Entries)
    {fault : Fault} (failed : (render name arguments site).1 = .error fault) : fault.IsDynamic := by
  have frozen : site.frozenComposer.library.IsClear site.frozenComposer.registry files :=
    clear.withFilters rfl
  have vets := frozen.vets builtIn.isTame
  rw [render_eq] at failed
  exact (vets.render_safe name arguments site.cache faithful).2.2 fault failed

/-- An audit is sound. In a site with built-in filters whose files are pages that load themselves and repeat
texts only, and whose cache is faithful, an audit that finds no problem is followed by no render that fails
for a malformed text or an unknown filter, whatever page is rendered with whatever arguments, and whatever
has been read and rendered in between. -/
theorem render_safe_of_audit {site : Site} {files : List (String × String)} {count : Nat}
    (builtIn : site.registry.IsBuiltIn) (regular : site.library.IsRegular files)
    (faithful : site.cache.Faithful site.library) (noProblems : (audit site).1 = .ok ⟨count, []⟩)
    (moves : List SiteMove) (readings : ∀ move ∈ moves, move.isReading = true) (name : String)
    (arguments : Entries) :
    let later := (audit site).2.run moves
    (∀ error, (render name arguments later).1 ≠ .error (.malformed error)) ∧
      ∀ filter, (render name arguments later).1 ≠ .error (.unknownFilter filter) := by
  intro later
  have allReadings : ∀ move ∈ SiteMove.audit :: moves, move.isReading = true :=
    List.forall_mem_cons.2 ⟨rfl, readings⟩
  obtain ⟨same, laterFaithful⟩ : site.SameMakeup later ∧ later.cache.Faithful site.library :=
    run_readings allReadings faithful
  have clear : later.library.IsClear later.registry files := by
    rw [same.library]
    exact (regular.isClear faithful noProblems).withFilters same.filters
  have laterBuiltIn : later.registry.IsBuiltIn := by
    unfold FilterRegistry.IsBuiltIn
    rw [same.filters]
    exact builtIn
  rw [← same.library] at laterFaithful
  constructor
  · intro error failed
    cases isDynamic_of_render clear laterBuiltIn laterFaithful name arguments failed
  · intro filter failed
    cases isDynamic_of_render clear laterBuiltIn laterFaithful name arguments failed

/-- The law for a page that includes another one and repeats a template, rendered after it has failed. -/
theorem render_safe_of_audit_after_failure :
    let files := [("a.html", "\x7b\x7b '\x7b\x7b it | upper \x7d\x7d' | forEach(names) \x7d\x7d"),
      ("b.html", "\x7b\x7b page | partial \x7d\x7d")]
    let site := Site.new .default (.memory files) .standard
    let moves : List SiteMove := [.render "b" [(.str "page", .str "b")]]
    let later := (audit site).2.run moves
    (audit site).1 = .ok ⟨2, []⟩ ∧
      (∀ move ∈ moves, move.isReading = true) ∧
        ((∀ error, (render "b" [(.str "page", .str "a")] later).1 ≠ .error (.malformed error)) ∧
          ∀ filter, (render "b" [(.str "page", .str "a")] later).1 ≠ .error (.unknownFilter filter)) ∧
            (render "b" [(.str "page", .str "a"), (.str "names", .list [.str "x", .str "y"])] later).1 =
              .ok "XY" := by
  intro files site moves later
  have regular : site.library.IsRegular files := .of_check 3 rfl (by decide +kernel)
  have noProblems : (audit site).1 = .ok ⟨2, []⟩ := by decide +kernel
  have readings : ∀ move ∈ moves, move.isReading = true := by decide
  refine ⟨noProblems, readings, ?_, by decide +kernel⟩
  exact render_safe_of_audit (.inl rfl) regular (.empty _) noProblems moves readings _ _

/-- Without a faithful cache the audit is not sound. A page that has been read is rendered even when its
file is not there any more, and no audit looks at it then. -/
theorem render_unsafe_of_stale_audit :
    let files := [("a.html", "\x7b\x7b 'b' | partial \x7d\x7d")]
    let source : Source := .memory (files ++ [("b.html", "\x7b\x7b x | nope \x7d\x7d")])
    let site := (Site.new .default source .standard).run
      [.getPage "b" Library.pageKind, .deleteFile "b.html"]
    site.registry.IsBuiltIn ∧ site.library.extension ≠ "" ∧ site.library.IsRegular files ∧
      (audit site).1 = .ok ⟨1, []⟩ ∧
        (render "a" [] (audit site).2).1 = .error (.unknownFilter "nope") := by
  refine ⟨.inl rfl, by decide, ?_, by decide +kernel, by decide +kernel⟩
  exact .of_check 2 rfl (by decide +kernel)

end Site

end Folio
