import Folio.Proofs.Path
import Folio.Proofs.Site.History

/-!
Contract: which pages a site keeps.

Owns: histories of a site, of changed files, pages that were looked for and pages that were given up; what the
files say behind a history, and which page was loaded first since it was given up; and that a site finds what
its history says, and keeps it until it is given up.

Does not own: pages that are read by rendering.
-/

namespace Folio

open Folio.Template

/-! ## Histories -/

/-- What may happen to the files of a site and to the pages that it has read. -/
inductive PageAct where
  | write (path text : String)
  | delete (path : String)
  | find (name : String)
  | get (name kind : String)
  | forget (name : Option String)
deriving DecidableEq

namespace PageAct

def move : PageAct → SiteMove
  | .write path text => .writeFile path text
  | .delete path => .deleteFile path
  | .find name => .findPage name
  | .get name kind => .getPage name kind
  | .forget name => .forget name

/-- What an act says about the text at a path: nothing, or the text, or that there is none. -/
def saysAt (path : String) : PageAct → Option (Option String)
  | .write other text => if (Path.normalize other).toOption = some path then some (some text) else none
  | .delete other => if (Path.normalize other).toOption = some path then some none else none
  | _ => none

def looksFor (library : Library) (id : String) : PageAct → Bool
  | .find name | .get name _ => (library.pageId name).toOption = some id
  | _ => false

def givesUp (library : Library) (id : String) : PageAct → Bool
  | .forget none => true
  | .forget (some name) => (library.pageId name).toOption = some id
  | _ => false

/-- Looks, if at all, for an identity that is a canonical path. -/
def looksCanonically (library : Library) : PageAct → Bool
  | .find name | .get name _ => (library.pageId name >>= Path.normalize).toOption = (library.pageId name).toOption
  | _ => true

theorem canonical_of_looksFor {library : Library} {act : PageAct} {id : String}
    (canonical : act.looksCanonically library = true) (looks : act.looksFor library id = true) :
    Path.normalize id = .ok id := by
  cases act with
  | find | get =>
      have isId := toOption_eq_some.1 (of_decide_eq_true looks)
      have kept := of_decide_eq_true canonical
      rw [isId] at kept
      exact toOption_eq_some.1 kept
  | write | delete | forget => cases looks

end PageAct

/-- The text at a path behind some acts: what the last act says that says anything about it. -/
def textBehind (files : List (String × String)) (acts : List PageAct) (path : String) : Option String :=
  (acts.reverse.findSome? (PageAct.saysAt path)).getD (files.lookup path)

/-- The page under an identity, if the files have the given texts. The file with the extension comes first. -/
def Library.loadFrom (library : Library) (texts : String → Option String) (id : String) :
    Except Fault (Option Page) :=
  match texts (id ++ library.extension), texts id with
  | some text, _ => (Page.parse id (id ++ library.extension) text).map some
  | none, some text => (Page.parse id id text).map some
  | none, none => .ok none

/-- Each act with what happened before it. -/
def momentsBehind (before : List PageAct) : List PageAct → List (List PageAct × PageAct)
  | [] => []
  | act :: acts => (before, act) :: momentsBehind (before ++ [act]) acts

/-- What happened before each look for an identity, as far as it was not given up since. -/
def looksSince (library : Library) (id : String) (acts : List PageAct) : List (List PageAct) :=
  let since := ((momentsBehind [] acts).reverse.takeWhile fun moment => !moment.2.givesUp library id).reverse
  (since.filter fun moment => moment.2.looksFor library id).map Prod.fst

/-- The page that was loaded first under an identity since that was last given up. -/
def firstLoad (library : Library) (files : List (String × String)) (acts : List PageAct) (id : String) :
    Option Page :=
  (looksSince library id acts).findSome? fun before =>
    (library.loadFrom (textBehind files before) id).toOption.join

/-! ## One more act -/

section Concat

variable (library : Library) (files : List (String × String)) (acts : List PageAct) (act : PageAct)

theorem textBehind_concat (path : String) :
    textBehind files (acts ++ [act]) path = (act.saysAt path).getD (textBehind files acts path) := by
  unfold textBehind
  rw [List.reverse_concat, List.findSome?_cons]
  cases act.saysAt path with
  | none => rfl
  | some text => rfl

theorem momentsBehind_concat (before : List PageAct) :
    momentsBehind before (acts ++ [act]) = momentsBehind before acts ++ [(before ++ acts, act)] := by
  induction acts generalizing before with
  | nil => simp [momentsBehind]
  | cons first acts inductionHypothesis =>
      rw [List.cons_append, momentsBehind, momentsBehind, inductionHypothesis]
      simp

theorem looksSince_concat (id : String) :
    looksSince library id (acts ++ [act]) =
      if act.givesUp library id then []
      else looksSince library id acts ++ if act.looksFor library id then [acts] else [] := by
  unfold looksSince
  rw [momentsBehind_concat, List.reverse_concat, List.takeWhile_cons]
  cases act.givesUp library id with
  | true => rfl
  | false => cases looks : act.looksFor library id <;> simp [looks]

/-- Giving a page up ends its time. Any other act leaves it, and a look loads it where there is none. -/
theorem firstLoad_concat (id : String) :
    firstLoad library files (acts ++ [act]) id =
      if act.givesUp library id then none
      else (firstLoad library files acts id).or
        (if act.looksFor library id then (library.loadFrom (textBehind files acts) id).toOption.join
          else none) := by
  unfold firstLoad
  rw [looksSince_concat]
  cases act.givesUp library id with
  | true => rfl
  | false =>
      simp only [Bool.false_eq_true, if_false, List.findSome?_append]
      cases act.looksFor library id with
      | true => simp
      | false => simp

end Concat

/-! ## What acts do to files -/

theorem lookup_putFile (files : List (String × String)) (path text other : String) :
    (Source.putFile files path text).lookup other = if other = path then some text else files.lookup other := by
  induction files with
  | nil => exact Cache.lookup_cons_eq path other text []
  | cons file rest inductionHypothesis =>
      obtain ⟨name, content⟩ := file
      unfold Source.putFile
      by_cases same : name = path
      · subst same
        rw [if_pos rfl, Cache.lookup_cons_eq, Cache.lookup_cons_eq]
        by_cases wanted : other = name
        · rw [if_pos wanted, if_pos wanted]
        · rw [if_neg wanted, if_neg wanted, if_neg wanted]
      · rw [if_neg same, Cache.lookup_cons_eq, Cache.lookup_cons_eq, inductionHypothesis]
        by_cases wanted : other = name
        · rw [if_pos wanted, if_pos wanted, if_neg (by rwa [wanted])]
        · rw [if_neg wanted, if_neg wanted]

/-- The files of a site are in memory, and at every path they have one text or none. -/
def Site.HasTexts (site : Site) (texts : String → Option String) : Prop :=
  ∃ files, site.library.source = .memory files ∧ ∀ path, files.lookup path = texts path

namespace PageAct

variable {site : Site} {texts : String → Option String}

/-- An act changes the texts that it says something about, and never the extension of pages. -/
theorem hasTexts_after (hasTexts : site.HasTexts texts) (act : PageAct) :
    (act.move.after site).HasTexts (fun path => (act.saysAt path).getD (texts path)) ∧
      (act.move.after site).library.extension = site.library.extension := by
  obtain ⟨files, isSource, areTexts⟩ := hasTexts
  cases act with
  | find | get | forget => exact ⟨⟨files, isSource, areTexts⟩, rfl⟩
  | write path text =>
      simp only [move, SiteMove.after, Site.writeFile, Source.write, isSource, saysAt]
      cases normal : Path.normalize path with
      | error cause => exact ⟨⟨files, isSource, areTexts⟩, rfl⟩
      | ok place =>
          refine ⟨⟨Source.putFile files place text, rfl, ?_⟩, rfl⟩
          intro other
          rw [lookup_putFile, areTexts]
          by_cases same : place = other <;> simp [same, Except.toOption, Ne.symm]
  | delete path =>
      simp only [move, SiteMove.after, Site.deleteFile, Source.delete, isSource, saysAt]
      cases normal : Path.normalize path with
      | error cause => exact ⟨⟨files, isSource, areTexts⟩, rfl⟩
      | ok place =>
          refine ⟨⟨files.filter fun file => file.1 != place, rfl, ?_⟩, rfl⟩
          intro other
          rw [Cache.lookup_filter_ne, areTexts]
          by_cases same : place = other <;> simp [same, Except.toOption, Ne.symm]

end PageAct

/-! ## What acts do to pages -/

namespace Library

variable {library other : Library}

theorem pageId_of_extension (same : library.extension = other.extension) (name : String) :
    library.pageId name = other.pageId name := by
  unfold pageId
  rw [same]

/-- A look for an identity finds the page that is kept, or reads one and keeps it, or finds none and changes
nothing. -/
theorem pageWithId_cases (library : Library) (id : String) (cache : Cache) :
    (∃ page, cache.page? id = some page ∧ library.pageWithId id cache = (.ok (some page), cache)) ∨
      (∃ page, cache.page? id = none ∧ library.readPage id = .ok (some page) ∧
        library.pageWithId id cache = (.ok (some page), cache.addPage page)) ∨
      cache.page? id = none ∧ (library.readPage id).toOption.join = none ∧
        library.pageWithId id cache = (library.readPage id, cache) := by
  unfold pageWithId
  cases isCached : cache.page? id with
  | some page => exact .inl ⟨page, rfl, rfl⟩
  | none =>
      cases read : library.readPage id with
      | error fault => exact .inr (.inr ⟨rfl, rfl, rfl⟩)
      | ok found =>
          cases found with
          | none => exact .inr (.inr ⟨rfl, rfl, rfl⟩)
          | some page => exact .inr (.inl ⟨page, rfl, rfl, rfl⟩)

/-- Looking for an identity keeps the page that is read for it, if none was kept. -/
theorem page?_pageWithId (library : Library) (id wanted : String) (cache : Cache) :
    (library.pageWithId id cache).2.page? wanted =
      (cache.page? wanted).or (if wanted = id then (library.readPage wanted).toOption.join else none) := by
  rcases library.pageWithId_cases id cache with
    ⟨page, isCached, looked⟩ | ⟨page, unread, read, looked⟩ | ⟨unread, missing, looked⟩
  · rw [looked]
    by_cases same : wanted = id
    · simp [same, isCached]
    · simp [same]
  · rw [looked, Cache.page?_addPage, id_of_readPage read]
    by_cases same : wanted = id
    · simp [same, unread, read, Except.toOption]
    · simp [same]
  · rw [looked]
    by_cases same : wanted = id
    · simp [same, unread, missing]
    · simp [same]

/-- Getting a page differs from finding it only in what it makes of a missing one. -/
theorem getPage_eq (library : Library) (name kind : String) (cache : Cache) :
    library.getPage name kind cache =
      ((library.findPage name cache).1 >>= fun
          | some page => .ok page
          | none => .error (.notFound kind name),
        (library.findPage name cache).2) := by
  unfold getPage
  rw [Work.bind_apply]
  rcases library.findPage name cache with ⟨outcome, after⟩
  cases outcome with
  | error fault => rfl
  | ok found => cases found <;> rfl

/-- A look that does not find a page leaves no trace. -/
theorem findPage_missed {name : String} {cache : Cache}
    (missed : ∀ page, (library.findPage name cache).1 ≠ .ok (some page)) :
    (library.findPage name cache).2 = cache := by
  unfold findPage at missed ⊢
  cases isId : library.pageId name with
  | error cause => rfl
  | ok id =>
      rw [isId] at missed
      dsimp only at missed ⊢
      rcases library.pageWithId_cases id cache with ⟨page, -, looked⟩ | ⟨page, -, -, looked⟩ | ⟨-, -, looked⟩
      · rw [looked]
      · exact absurd (congrArg Prod.fst looked) (missed page)
      · rw [looked]

theorem forget_of_pageId {name id : String} (isId : library.pageId name = .ok id) (cache : Cache) :
    library.forget (some name) cache = (.ok (), cache.withoutPage id) := by
  simp only [forget, isId]

theorem forget_of_refused {name : String} {cause : Mishap} (refused : library.pageId name = .error cause)
    (cache : Cache) : library.forget (some name) cache = (.error (.mishap cause), cache) := by
  simp only [forget, refused]

theorem candidatePaths_of_isExtension (library : Library) (isExtension : Path.IsExtension library.extension)
    (id : String) : library.candidatePaths id = [id ++ library.extension, id] := by
  obtain ⟨letters, isText, -⟩ := isExtension
  unfold candidatePaths
  rw [if_neg]
  rw [beq_iff_eq]
  intro isEmpty
  rw [isEmpty] at isText
  cases isText

/-- A canonical identity is read from the two files that may have it. -/
theorem readPage_memory {files : List (String × String)} (source : library.source = .memory files)
    (isExtension : Path.IsExtension library.extension) {id : String} (canonical : Path.normalize id = .ok id) :
    library.readPage id = library.loadFrom (fun path => files.lookup path) id := by
  have gives : ∀ path, Path.normalize path = .ok path → library.source.get? path = .ok (files.lookup path) := by
    intro path isCanonical
    rw [source]
    exact bind_eq_ok.2 ⟨path, isCanonical, rfl⟩
  unfold readPage loadFrom
  beta_reduce
  rw [library.candidatePaths_of_isExtension isExtension, firstText,
    gives _ (Path.normalize_append canonical isExtension)]
  cases files.lookup (id ++ library.extension) with
  | some text => rfl
  | none =>
      rw [firstText, gives id canonical]
      cases files.lookup id with
      | some text => rfl
      | none => rfl

theorem readPage_of_texts {site : Site} {texts : String → Option String} (hasTexts : site.HasTexts texts)
    (isExtension : Path.IsExtension site.library.extension) {id : String}
    (canonical : Path.normalize id = .ok id) :
    site.library.readPage id = site.library.loadFrom texts id := by
  obtain ⟨files, isSource, areTexts⟩ := hasTexts
  rw [readPage_memory isSource isExtension canonical, ← funext areTexts]

end Library

/-- What an act does to the page under an identity: it may be given up, and what a look reads is kept where
there is none yet. -/
theorem PageAct.page?_after (act : PageAct) (site : Site) (id : String) :
    (act.move.after site).cache.page? id =
      if act.givesUp site.library id then none
      else (site.cache.page? id).or
        (if act.looksFor site.library id then (site.library.readPage id).toOption.join else none) := by
  have finding : ∀ name, (site.library.findPage name site.cache).2.page? id =
      (site.cache.page? id).or
        (if site.library.pageId name = .ok id then (site.library.readPage id).toOption.join else none) := by
    intro name
    unfold Library.findPage
    cases isId : site.library.pageId name with
    | error cause =>
        rw [if_neg nofun, Option.or_none]
        rfl
    | ok found => simp [Library.page?_pageWithId, eq_comm]
  cases act with
  | write path text =>
      simp only [move, SiteMove.after, Site.writeFile, givesUp, looksFor]
      cases site.library.source.write path text <;> simp
  | delete path =>
      simp only [move, SiteMove.after, Site.deleteFile, givesUp, looksFor]
      cases site.library.source.delete path <;> simp
  | find name =>
      change (site.library.findPage name site.cache).2.page? id = _
      rw [finding]
      simp [givesUp, looksFor, toOption_eq_some]
  | get name kind =>
      change (site.library.getPage name kind site.cache).2.page? id = _
      rw [Library.getPage_eq, finding]
      simp [givesUp, looksFor, toOption_eq_some]
  | forget name =>
      cases name with
      | none => rfl
      | some name =>
          change (site.library.forget (some name) site.cache).2.page? id = _
          cases isId : site.library.pageId name with
          | error cause => simp [givesUp, looksFor, isId, Library.forget_of_refused, Except.toOption]
          | ok other =>
              simp [givesUp, looksFor, isId, Library.forget_of_pageId, Cache.page?_withoutPage, Except.toOption,
                eq_comm]

/-! ## Sites and their histories -/

/-- The files of a site are what its history says, and the pages that it keeps are those that its history
loaded. -/
structure Site.Follows (start : Library) (files : List (String × String)) (acts : List PageAct) (site : Site) :
    Prop where
  texts : site.HasTexts (textBehind files acts)
  extension : site.library.extension = start.extension
  pages : ∀ id, site.cache.page? id = firstLoad start files acts id

namespace Site.Follows

variable {start : Library} {files : List (String × String)} {acts : List PageAct} {site : Site}

/-- A site without a history that has read no page yet. -/
theorem begins (source : site.library.source = .memory files) (unread : site.cache.pages = []) :
    site.Follows site.library files [] where
  texts := ⟨files, source, fun _ => rfl⟩
  extension := rfl
  pages id := by
    rw [Cache.page?, unread]
    rfl

theorem pageId (follows : site.Follows start files acts) (name : String) :
    site.library.pageId name = start.pageId name :=
  Library.pageId_of_extension follows.extension name

theorem givesUp (follows : site.Follows start files acts) (act : PageAct) (id : String) :
    act.givesUp site.library id = act.givesUp start id := by
  rcases act with _ | _ | _ | _ | (_ | name) <;> simp [PageAct.givesUp, follows.pageId]

/-- What is read under a canonical identity is what the history says. -/
theorem readPage (follows : site.Follows start files acts) (isExtension : Path.IsExtension start.extension)
    {id : String} (canonical : Path.normalize id = .ok id) :
    site.library.readPage id = start.loadFrom (textBehind files acts) id := by
  rw [← follows.extension] at isExtension
  rw [Library.readPage_of_texts follows.texts isExtension canonical]
  unfold Library.loadFrom
  rw [follows.extension]

/-- What is found is the page that the history loaded, or what it would load now. -/
theorem findPage (follows : site.Follows start files acts) (isExtension : Path.IsExtension start.extension)
    {name id : String} (isId : start.pageId name = .ok id) (canonical : Path.normalize id = .ok id) :
    (Site.findPage name site).1 =
      (match firstLoad start files acts id with
        | some page => .ok (some page)
        | none => start.loadFrom (textBehind files acts) id) := by
  have found : site.library.findPage name = site.library.pageWithId id := by
    unfold Library.findPage
    rw [follows.pageId, isId]
  have result := site.library.pageWithId_result id site.cache
  rw [follows.pages, follows.readPage isExtension canonical, ← found] at result
  cases kept : firstLoad start files acts id with
  | some page =>
      rw [kept] at result
      exact result
  | none =>
      rw [kept] at result
      exact result

/-- Giving up a name gives up its identity and no other. -/
theorem forget (follows : site.Follows start files acts) {name id : String}
    (isId : start.pageId name = .ok id) :
    (Site.forget (some name) site).1 = .ok () ∧
      ∀ other, (Site.forget (some name) site).2.cache.page? other =
        if other = id then none else site.cache.page? other := by
  have given := Library.forget_of_pageId ((follows.pageId name).trans isId) site.cache
  constructor
  · change (site.library.forget (some name) site.cache).1 = _
    rw [given]
  · intro other
    change (site.library.forget (some name) site.cache).2.page? other = _
    rw [given, Cache.page?_withoutPage]

/-- A name without an identity is refused, and nothing is given up. -/
theorem forget_refused (follows : site.Follows start files acts) {name : String} {cause : Mishap}
    (isCause : start.pageId name = .error cause) :
    Site.forget (some name) site = (.error (.mishap cause), site) := by
  have refused := Library.forget_of_refused ((follows.pageId name).trans isCause) site.cache
  change ((site.library.forget (some name) site.cache).1,
    { site with cache := (site.library.forget (some name) site.cache).2 }) = _
  rw [refused]

/-- What is kept stays until it is given up. -/
theorem keeps (follows : site.Follows start files acts) {act : PageAct} {id : String} {page : Page}
    (notGivenUp : act.givesUp start id = false) (isKept : site.cache.page? id = some page) :
    (act.move.after site).cache.page? id = some page := by
  rw [act.page?_after, follows.givesUp, notGivenUp, isKept]
  rfl

/-- One more act is one more moment of the history. -/
theorem step (follows : site.Follows start files acts) (isExtension : Path.IsExtension start.extension)
    {act : PageAct} (canonical : act.looksCanonically start = true) :
    (act.move.after site).Follows start files (acts ++ [act]) := by
  have sameLooks : ∀ id, act.looksFor site.library id = act.looksFor start id := by
    intro id
    cases act <;> simp [PageAct.looksFor, follows.pageId]
  obtain ⟨hasTexts, sameExtension⟩ := act.hasTexts_after follows.texts
  refine ⟨?_, sameExtension.trans follows.extension, ?_⟩
  · rwa [← funext (textBehind_concat files acts act)] at hasTexts
  · intro id
    rw [act.page?_after, firstLoad_concat, follows.givesUp, sameLooks, follows.pages]
    cases looks : act.looksFor start id with
    | false => rfl
    | true => rw [follows.readPage isExtension (PageAct.canonical_of_looksFor canonical looks)]

/-- A history takes its site along. -/
theorem run (follows : site.Follows start files acts) (isExtension : Path.IsExtension start.extension)
    {more : List PageAct} (canonical : ∀ act ∈ more, act.looksCanonically start = true) :
    (site.run (more.map PageAct.move)).Follows start files (acts ++ more) := by
  induction more generalizing acts site with
  | nil => rwa [List.append_nil]
  | cons act more inductionHypothesis =>
      obtain ⟨first, others⟩ := List.forall_mem_cons.1 canonical
      rw [List.append_cons]
      exact inductionHypothesis (follows.step isExtension first) others

end Site.Follows

/-- Finding pages is settled by the history of a site. Take a site over files in memory that has read no page
yet and whose page extension is a point with letters, and any acts of which those that look for a page name an
identity that is a canonical path. Behind them the pages kept are exactly those that were loaded first under
their identity since it was last given up. What is found is the page kept, and where there is none, it is what
the files say by then, the file with the extension before the one without; getting a page differs only in what
it makes of a missing one; and a look that finds no page changes nothing. Giving up a name gives up its identity
and no other, a name without an identity is refused as a wrong value with nothing given up, and no act changes a
page that it does not give up. -/
theorem Site.found_page_follows_history {site : Site} {files : List (String × String)} {acts : List PageAct}
    (source : site.library.source = .memory files) (unread : site.cache.pages = [])
    (isExtension : Path.IsExtension site.library.extension)
    (canonical : ∀ act ∈ acts, act.looksCanonically site.library = true) :
    let now := site.run (acts.map PageAct.move)
    (∀ id, now.cache.page? id = firstLoad site.library files acts id) ∧
      (∀ name id, site.library.pageId name = .ok id → Path.normalize id = .ok id →
        (findPage name now).1 =
            (match firstLoad site.library files acts id with
              | some page => .ok (some page)
              | none => site.library.loadFrom (textBehind files acts) id) ∧
          (∀ kind, (getPage name kind now).1 =
              ((findPage name now).1 >>= fun
                | some page => .ok page
                | none => .error (.notFound kind name)) ∧
            (getPage name kind now).2 = (findPage name now).2) ∧
          ((∀ page, (findPage name now).1 ≠ .ok (some page)) → (findPage name now).2 = now)) ∧
      (∀ name id, site.library.pageId name = .ok id →
        (forget (some name) now).1 = .ok () ∧
          ∀ other, (forget (some name) now).2.cache.page? other =
            if other = id then none else now.cache.page? other) ∧
      (∀ name cause, site.library.pageId name = .error cause →
        forget (some name) now = (.error (.mishap cause), now) ∧ cause.kindName = "ValueError") ∧
      ∀ act id page, PageAct.givesUp site.library id act = false → now.cache.page? id = some page →
        (act.move.after now).cache.page? id = some page := by
  intro now
  have follows : now.Follows site.library files acts := (Follows.begins source unread).run isExtension canonical
  refine ⟨follows.pages, ?_, ?_, ?_, ?_⟩
  · intro name id isId canonicalId
    refine ⟨follows.findPage isExtension isId canonicalId, ?_, ?_⟩
    · intro kind
      rw [getPage_apply, Library.getPage_eq]
      exact ⟨rfl, rfl⟩
    · intro missed
      change { now with cache := (now.library.findPage name now.cache).2 } = now
      rw [Library.findPage_missed missed]
  · intro name id isId
    exact follows.forget isId
  · intro name cause isCause
    exact ⟨follows.forget_refused isCause, Path.kindName_of_normalize (map_eq_error.1 isCause)⟩
  · intro act id page notGivenUp isKept
    exact follows.keeps notGivenUp isKept

/-- The law for a page that was read, changed, deleted and read again, and one that did not load before it was
repaired. -/
theorem Site.found_page_follows_history_of_changes :
    let files := [("p.html", "one"), ("q", "\x7b\x7b oops")]
    let acts : List PageAct :=
      [.find "q", .get "/p.html" "page", .write "q" "fine", .write "p.html" "two", .find "q.html", .delete "q",
        .forget (some ".."), .delete "./p.html"]
    let site := Site.new .default (.memory files) .standard
    let now := site.run (acts.map PageAct.move)
    (findPage "p" now).1 = (Page.parse "p" "p.html" "one").map some ∧
      (findPage "q" now).1 = (Page.parse "q" "q" "fine").map some ∧
      (forget (some "..") now).1 = .error (.mishap (.escapingPath "..")) ∧
      (forget (some "p") now).2.cache.page? "p" = none := by
  intro files acts site now
  have isExtension : Path.IsExtension site.library.extension :=
    ⟨['h', 't', 'm', 'l'], by decide, List.all_eq_true.1 (by decide)⟩
  obtain ⟨-, found, given, refused, -⟩ :=
    @found_page_follows_history site files acts rfl rfl isExtension (by decide +kernel)
  obtain ⟨page, read⟩ : ∃ page, Page.parse "p" "p.html" "one" = .ok page :=
    exists_of_isOk (by decide +kernel)
  obtain ⟨page', read'⟩ : ∃ page, Page.parse "q" "q" "fine" = .ok page :=
    exists_of_isOk (by decide +kernel)
  have failed : Page.parse "q" "q" "\x7b\x7b oops" = .error (.malformed ⟨.unclosedExpression, .start, some "q"⟩) :=
    map_eq_error.1 (show (Page.parse "q" "q" "\x7b\x7b oops").map (fun page => page.id) = _ by decide +kernel)
  have looks : looksSince site.library "p" acts = [[.find "q"]] := by decide +kernel
  have looks' : looksSince site.library "q" acts =
      [[], [.find "q", .get "/p.html" "page", .write "q" "fine", .write "p.html" "two"]] := by decide +kernel
  have kept : firstLoad site.library files acts "p" = some page := by
    have path : "p" ++ site.library.extension = "p.html" := by decide
    have text : textBehind files [.find "q"] "p.html" = some "one" := by decide +kernel
    simp only [firstLoad, looks, Library.loadFrom, path, text, read, List.findSome?_cons]
    rfl
  have kept' : firstLoad site.library files acts "q" = some page' := by
    have path : "q" ++ site.library.extension = "q.html" := by decide
    have bare : textBehind files [] "q.html" = none := by decide +kernel
    have text : textBehind files [] "q" = some "\x7b\x7b oops" := by decide +kernel
    have bare' : textBehind files
        [.find "q", .get "/p.html" "page", .write "q" "fine", .write "p.html" "two"] "q.html" = none := by
      decide +kernel
    have text' : textBehind files
        [.find "q", .get "/p.html" "page", .write "q" "fine", .write "p.html" "two"] "q" = some "fine" := by
      decide +kernel
    simp only [firstLoad, looks', Library.loadFrom, path, bare, text, bare', text', failed, read',
      List.findSome?_cons]
    rfl
  refine ⟨?_, ?_, ?_, ?_⟩
  · have isFound := (found "p" "p" (by decide +kernel) (by decide +kernel)).1
    rw [kept] at isFound
    rw [isFound, read]
    rfl
  · have isFound := (found "q" "q" (by decide +kernel) (by decide +kernel)).1
    rw [kept'] at isFound
    rw [isFound, read']
    rfl
  · have isRefused := (refused ".." (.escapingPath "..") (by decide +kernel)).1
    exact congrArg Prod.fst isRefused
  · have isId : site.library.pageId "p" = .ok "p" := by decide +kernel
    have others := (given "p" "p" isId).2 "p"
    rw [others, if_pos rfl]

end Folio
