import Folio.Proofs.Render.Inclusion
import Folio.Proofs.Site.Files

/-!
Contract: names that stand for no page.

Owns: files that can all be read as pages; for which names looking for a page among them fails, and by what; and
what getting a page and including one make of a name that stands for none.

Does not own: pages whose text is malformed.
-/

namespace Folio

open Folio.Template

namespace Library

/-! ## Paths that are refused on the way -/

theorem firstText_eq_error {source : Source} {cause : Mishap} {paths : List String} :
    firstText source paths = .error cause ↔
      ∃ front path back, paths = front ++ path :: back ∧ (∀ other ∈ front, source.get? other = .ok none) ∧
        source.get? path = .error cause := by
  induction paths with
  | nil => simp [firstText]
  | cons first paths inductionHypothesis =>
      rw [firstText, bind_eq_error]
      constructor
      · rintro (refused | ⟨text, got, failed⟩)
        · exact ⟨[], first, paths, rfl, by simp, refused⟩
        · cases text with
          | some text => cases failed
          | none =>
              obtain ⟨front, path, back, rfl, missing, refused⟩ := inductionHypothesis.1 failed
              exact ⟨first :: front, path, back, rfl, List.forall_mem_cons.2 ⟨got, missing⟩, refused⟩
      · rintro ⟨front, path, back, isRow, missing, refused⟩
        cases front with
        | nil =>
            cases isRow
            exact .inl refused
        | cons first' front =>
            cases isRow
            obtain ⟨got, missing⟩ := List.forall_mem_cons.1 missing
            exact .inr ⟨none, got, inductionHypothesis.2 ⟨front, path, back, rfl, missing, refused⟩⟩

/-- One of the paths under which a page may lie is refused, and no file is found under those in front of it. -/
def RefusesPath (library : Library) (id : String) (cause : Mishap) : Prop :=
  ∃ front path back, library.candidatePaths id = front ++ path :: back ∧
    (∀ other ∈ front, library.source.get? other = .ok none) ∧ Path.normalize path = .error cause

theorem RefusesPath.kindName {library : Library} {id : String} {cause : Mishap}
    (refuses : library.RefusesPath id cause) : cause.kindName = "ValueError" := by
  obtain ⟨front, path, back, -, -, refused⟩ := refuses
  exact Path.kindName_of_normalize refused

/-- Files in memory that can all be read as pages. -/
structure IsLoadable (library : Library) (files : List (String × String)) : Prop where
  source : library.source = .memory files
  page : ∀ file text, files.lookup file = some text → ∃ id path page, Page.parse id path text = .ok page

/-- Files that are read as pages under some name are read as pages under any. -/
theorem isLoadable_of_all {library : Library} {files : List (String × String)}
    (source : library.source = .memory files)
    (all : files.all (fun file => (Page.parse "" "" file.2).isOk) = true) : library.IsLoadable files where
  source := source
  page := by
    intro file text isText
    obtain ⟨front, back, rfl, -⟩ := List.lookup_eq_some_iff.1 isText
    have parsed := List.all_eq_true.1 all (file, text) (by simp)
    exact ⟨"", "", exists_of_isOk parsed⟩

namespace IsLoadable

variable {library : Library} {files : List (String × String)} (loadable : library.IsLoadable files)

include loadable

theorem get?_eq (path : String) :
    library.source.get? path = (Path.normalize path).map fun place => files.lookup place := by
  rw [loadable.source, Source.get?_memory]

/-- What lies under a path can be read as the page of any identity. -/
theorem parse {path text : String} (got : library.source.get? path = .ok (some text)) (id path' : String) :
    ∃ page, Page.parse id path' text = .ok page := by
  rw [loadable.get?_eq] at got
  obtain ⟨file, -, isText⟩ := map_eq_ok.1 got
  obtain ⟨id', path'', page, parsed⟩ := loadable.page file text isText
  obtain ⟨page', parsed', -⟩ := Page.parse_under parsed id path'
  exact ⟨page', parsed'⟩

/-- Reading a page fails at a path that is refused, and at nothing else. -/
theorem readPage_eq_error {id : String} {fault : Fault} :
    library.readPage id = .error fault ↔ ∃ cause, library.RefusesPath id cause ∧ fault = .mishap cause := by
  have refused : ∀ cause, library.RefusesPath id cause ↔
      firstText library.source (library.candidatePaths id) = .error cause := by
    intro cause
    simp only [RefusesPath, firstText_eq_error, loadable.get?_eq, map_eq_error]
  unfold readPage
  rw [bind_eq_error, mapError_eq_error]
  constructor
  · rintro (⟨cause, failed, rfl⟩ | ⟨found, isFound, failed⟩)
    · exact ⟨cause, (refused cause).2 failed, rfl⟩
    · match found with
      | none => cases failed
      | some (path, text) =>
          obtain ⟨-, got⟩ := of_firstText (mapError_eq_ok.1 isFound)
          obtain ⟨page, parsed⟩ := loadable.parse got id path
          change (Page.parse id path text >>= fun page => .ok (some page)) = _ at failed
          rw [parsed] at failed
          cases failed
  · rintro ⟨cause, isRefused, rfl⟩
    exact .inl ⟨cause, (refused cause).1 isRefused, rfl⟩

/-- Looking for a page fails if its name has an identity, no page is kept under that, and reading it fails. -/
theorem findPage_eq_error {name : String} {cache : Cache} {fault : Fault} :
    (library.findPage name cache).1 = .error fault ↔
      ∃ id cause, library.pageId name = .ok id ∧ cache.page? id = none ∧ library.RefusesPath id cause ∧
        fault = .mishap cause := by
  unfold findPage
  cases isId : library.pageId name with
  | error cause => simp
  | ok id =>
      dsimp only
      rw [pageWithId_result]
      cases isCached : cache.page? id with
      | some page => simp [isCached]
      | none => simp [isCached, loadable.readPage_eq_error]

/-- With an ordinary extension a path is refused on the way if the identity itself is refused as a path, and no
file has the identity with the extension. -/
theorem refusesPath_iff {id : String} (isExtension : Path.IsExtension library.extension)
    (hasLetter : library.extension ≠ ".") :
    (∃ cause, library.RefusesPath id cause) ↔
      (Path.normalize id).isOk = false ∧
        ∀ text, library.source.get? (id ++ library.extension) ≠ .ok (some text) := by
  have kept : (Path.normalize id).isOk = true → (Path.normalize (id ++ library.extension)).isOk = true :=
    Path.isOk_normalize_append isExtension hasLetter
  unfold RefusesPath
  rw [library.candidatePaths_of_isExtension isExtension, loadable.get?_eq]
  constructor
  · rintro ⟨cause, front, path, back, isRow, missing, refused⟩
    match front with
    | [] =>
        cases isRow
        rw [refused] at kept ⊢
        refine ⟨?_, nofun⟩
        apply Bool.eq_false_iff.2
        intro accepted
        cases kept accepted
    | [_] =>
        cases isRow
        have isMissing := missing _ List.mem_cons_self
        rw [loadable.get?_eq] at isMissing
        rw [refused, isMissing]
        exact ⟨rfl, nofun⟩
    | _ :: _ :: front => simp at isRow
  · rintro ⟨refused, missing⟩
    cases longer : Path.normalize (id ++ library.extension) with
    | error cause => exact ⟨cause, [], _, [id], rfl, by simp, longer⟩
    | ok place =>
        cases shorter : Path.normalize id with
        | ok other =>
            rw [shorter] at refused
            cases refused
        | error cause =>
            refine ⟨cause, [id ++ library.extension], id, [], rfl, ?_, shorter⟩
            intro other member
            rw [List.mem_singleton.1 member, loadable.get?_eq, longer]
            cases isText : files.lookup place with
            | none => exact congrArg Except.ok isText
            | some text =>
                rw [longer] at missing
                exact absurd (congrArg Except.ok isText) (missing text)

end IsLoadable

end Library

/-! ## What is made of a name that stands for no page -/

/-- Getting a page fails, by a fault that may tell what was wanted; and so does including it, where the stage
takes its arguments and has a level left. -/
def Composer.Tells (composer : Composer) (name : String) (cache : Cache) (told : String → Fault) : Prop :=
  (∀ kind, (composer.library.getPage name kind cache).1 = .error (told kind)) ∧
    ∀ arguments entries render scope, arguments.length ≤ 1 →
      includeArguments (.str name) arguments = .ok (name, entries) →
      (composer.call (some render) partialName (.str name) arguments ⟨scope, cache⟩).1 =
        .error (blame partialName (told Library.partialKind))

/-- Including a page takes the fault of getting it for its own. -/
theorem Composer.tells_of_getPage {composer : Composer} {name : String} {cache : Cache} {told : String → Fault}
    (isPartial : composer.registry.find? partialName = FilterRegistry.standard.find? partialName)
    (failed : ∀ kind, (composer.library.getPage name kind cache).1 = .error (told kind)) :
    composer.Tells name cache told := by
  refine ⟨failed, ?_⟩
  intro arguments entries render scope atMostOne taken
  have isIncluded : (composer.includePage (some render) name entries ⟨scope, cache⟩).1 =
      .error (told Library.partialKind) := by
    change ((Render.withCache (composer.library.getPage name Library.partialKind) >>= fun page =>
      Render.inChild (Entries.overlay page.arguments entries) ("partial:" ++ page.id) (render page.nodes))
        ⟨scope, cache⟩).1 = _
    rw [Work.bind_eq_error, Render.withCache_apply]
    exact .inl (failed Library.partialKind)
  have isActed : (composer.act (some render) .includePage (.str name) arguments ⟨scope, cache⟩).1 =
      .error (told Library.partialKind) := by
    rw [act_includePage taken, Work.bind_eq_error]
    exact .inl isIncluded
  rw [call_includePage isPartial atMostOne, Work.rename_apply]
  rcases isWork : composer.act (some render) .includePage (.str name) arguments ⟨scope, cache⟩ with
    ⟨outcome, after⟩
  rw [isWork] at isActed
  rw [show outcome = .error (told Library.partialKind) from isActed]

/-- When looking for a page fails, and what is told about a name that stands for none. Take files in memory that
can all be read as pages. Looking for a page fails exactly if the name has an identity under which no page is
kept, and on the way through the paths of that identity one is refused, as a wrong value, before a file is found.
With an extension that has a letter behind its point this is so exactly if the identity itself is refused as a
path, and no file has it with the extension: never for a name whose identity is accepted. A name that is refused
stands for no page. Where no page is found, getting one tells the name with what was wanted, and a partial tells
it likewise, whatever object is handed over. Where looking fails, getting a page fails for the same cause, and the
partial is blamed for it. -/
theorem unusable_names_are_told {composer : Composer} {files : List (String × String)}
    (loadable : composer.library.IsLoadable files)
    (isPartial : composer.registry.find? partialName = FilterRegistry.standard.find? partialName)
    (name : String) (cache : Cache) :
    let library := composer.library
    let found := (library.findPage name cache).1
    (∀ fault, found = .error fault ↔
        ∃ id cause, library.pageId name = .ok id ∧ cache.page? id = none ∧ library.RefusesPath id cause ∧
          cause.kindName = "ValueError" ∧ fault = .mishap cause) ∧
      (Path.IsExtension library.extension → library.extension ≠ "." →
        ((∃ fault, found = .error fault) ↔
          ∃ id, library.pageId name = .ok id ∧ cache.page? id = none ∧ (Path.normalize id).isOk = false ∧
            ∀ text, library.source.get? (id ++ library.extension) ≠ .ok (some text))) ∧
      ((Path.normalize name).isOk = false → found = .ok none) ∧
      (found = .ok none → composer.Tells name cache fun kind => .notFound kind name) ∧
      ∀ fault, found = .error fault → composer.Tells name cache fun _ => fault := by
  intro library found
  have fails : ∀ fault, found = .error fault ↔ ∃ id cause, library.pageId name = .ok id ∧ cache.page? id = none ∧
      library.RefusesPath id cause ∧ fault = .mishap cause := fun _ => loadable.findPage_eq_error
  refine ⟨?_, ?_, ?_, ?_, ?_⟩
  · intro fault
    rw [fails]
    constructor
    · rintro ⟨id, cause, isId, unread, refuses, isFault⟩
      exact ⟨id, cause, isId, unread, refuses, refuses.kindName, isFault⟩
    · rintro ⟨id, cause, isId, unread, refuses, -, isFault⟩
      exact ⟨id, cause, isId, unread, refuses, isFault⟩
  · intro isExtension hasLetter
    constructor
    · rintro ⟨fault, failed⟩
      obtain ⟨id, cause, isId, unread, refuses, -⟩ := (fails fault).1 failed
      exact ⟨id, isId, unread, (loadable.refusesPath_iff isExtension hasLetter).1 ⟨cause, refuses⟩⟩
    · rintro ⟨id, isId, unread, refused⟩
      obtain ⟨cause, refuses⟩ := (loadable.refusesPath_iff isExtension hasLetter).2 refused
      exact ⟨.mishap cause, (fails _).2 ⟨id, cause, isId, unread, refuses, rfl⟩⟩
  · intro refused
    show (library.findPage name cache).1 = .ok none
    unfold Library.findPage Library.pageId
    cases normal : Path.normalize name with
    | ok place =>
        rw [normal] at refused
        cases refused
    | error cause => rfl
  · intro missing
    apply Composer.tells_of_getPage isPartial
    intro kind
    rw [Library.getPage_eq, show (composer.library.findPage name cache).1 = .ok none from missing]
    rfl
  · intro fault failed
    apply Composer.tells_of_getPage isPartial
    intro kind
    rw [Library.getPage_eq, show (composer.library.findPage name cache).1 = .error fault from failed]
    rfl

/-- The law for a name that leads out of the folder of pages, one whose identity is refused though a file has it
with the extension, and one whose identity is refused and has no file. -/
theorem unusable_names_are_told_at_dots :
    let composer : Composer := ⟨.default, ⟨.memory [("..html", "one dot")], ".html"⟩, .standard⟩
    (composer.Tells "../outside" .empty fun kind => .notFound kind "../outside") ∧
      (∀ fault, (composer.library.findPage "..html" .empty).1 ≠ .error fault) ∧
      composer.Tells "...html" .empty fun _ => .mishap (.escapingPath "..") := by
  intro composer
  have loadable : composer.library.IsLoadable [("..html", "one dot")] :=
    Library.isLoadable_of_all rfl (by decide +kernel)
  refine ⟨?_, ?_, ?_⟩
  · obtain ⟨-, -, refused, missing, -⟩ := unusable_names_are_told loadable rfl "../outside" .empty
    exact missing (refused (by decide +kernel))
  · obtain ⟨-, fails, -⟩ := unusable_names_are_told loadable rfl "..html" .empty
    intro fault failed
    obtain ⟨id, isId, -, -, missing⟩ := (fails Path.isExtension_html (by decide)).1 ⟨fault, failed⟩
    have isDot : composer.library.pageId "..html" = .ok "." := by decide +kernel
    cases isDot.symm.trans isId
    exact missing "one dot" (by decide +kernel)
  · obtain ⟨fails, -, -, -, told⟩ := unusable_names_are_told loadable rfl "...html" .empty
    apply told
    apply (fails (.mishap (.escapingPath ".."))).2
    refine ⟨"..", .escapingPath "..", by decide +kernel, rfl, ?_, rfl, rfl⟩
    refine ⟨["...html"], "..", [], by decide +kernel, ?_, by decide +kernel⟩
    intro other member
    rw [List.mem_singleton.1 member]
    decide +kernel

/-- A name with an identity is not always one that can be looked for. Where a dot alone is left in front of the
extension, the dot is refused as a path; a blank behind a slash in front may hide two dots likewise. -/
theorem unusable_name_is_not_missing :
    let composer : Composer := ⟨.default, ⟨.emptyMemory, ".html"⟩, .standard⟩
    composer.library.IsLoadable [] ∧
      (composer.library.findPage "..html" .empty).1.map (fun _ => ()) = .error (.mishap (.invalidPath ".")) ∧
      (composer.library.getPage "/ .." "partial" .empty).1.map (fun _ => ()) =
        .error (.mishap (.escapingPath " ..")) := by
  refine ⟨⟨rfl, nofun⟩, ?_, ?_⟩
  · decide +kernel
  · decide +kernel

end Folio
