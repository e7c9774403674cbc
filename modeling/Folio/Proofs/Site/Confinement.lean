import Folio.Proofs.Cache
import Folio.Proofs.Path

/-!
Contract: pages and layouts are read from below the root.

Owns: places that a root confines; that a canonical path is one, so that a source gives texts from such places only;
that what finding pages and layouts adds to a cache is read from such a place, as is what they refuse; and that
nothing else of a source matters to them.

Does not own: which of several files is read.
-/

namespace Folio

open Folio.Text

/-! ## Confined places -/

/-- A path that leads down from the root and stays there. -/
structure Path.IsConfined (path : String) : Prop where
  noBackslash : '\\' ∉ path.toList
  noLeadingSlash : path.toList.head? ≠ some '/'
  plain : ∀ segment ∈ splitOn '/' path.toList, IsPlain segment

namespace Path

/-- A path whose segments lead down does not start with a slash, since its first segment would be empty. -/
theorem head?_of_plain {chars : List Char} (plain : ∀ segment ∈ splitOn '/' chars, IsPlain segment) :
    chars.head? ≠ some '/' := by
  intro leads
  obtain ⟨rest, rfl⟩ := List.head?_eq_some_iff.1 leads
  have isEmpty := (plain [] (by simp [splitOn])).1
  exact isEmpty rfl

theorem isConfined_of_normalize {path place : String} (normal : normalize path = .ok place) :
    IsConfined place where
  noBackslash := notMem_of_normalize normal
  noLeadingSlash := head?_of_plain fun segment member => ((segments_of_normalize normal).2 segment member).1
  plain segment member := ((segments_of_normalize normal).2 segment member).1

/-- A confined place in a folder lies below it, by the segments of the place. -/
theorem IsConfined.segments {place : String} (confined : IsConfined place) :
    splitText '/' place ≠ [] ∧
      ∀ segment ∈ splitText '/' place, IsPlain segment.toList ∧ '/' ∉ segment.toList := by
  unfold splitText
  constructor
  · simpa using splitOn_ne_nil '/' place.toList
  · intro segment member
    obtain ⟨part, isPart, rfl⟩ := List.mem_map.1 member
    rw [String.toList_ofList]
    exact ⟨confined.plain part isPart, notMem_of_mem_splitOn isPart⟩

end Path

/-! ## Sources -/

namespace Source

/-- At every confined place both sources have the same. -/
def SameInside (left right : Source) : Prop :=
  ∀ place, Path.IsConfined place → left.fileAt? place = right.fileAt? place

/-- The text that a path obtains, with the confined place that it is read from. -/
theorem place_of_get? {source : Source} {path text : String} (got : source.get? path = .ok (some text)) :
    ∃ place, Path.normalize path = .ok place ∧ Path.IsConfined place ∧
      source.fileAt? place = .ok (some text) := by
  obtain ⟨place, normal, isText⟩ := bind_eq_ok.1 got
  exact ⟨place, normal, Path.isConfined_of_normalize normal, isText⟩

theorem get?_sameInside {left right : Source} (same : SameInside left right) (path : String) :
    left.get? path = right.get? path := by
  unfold get?
  cases normal : Path.normalize path with
  | error cause => rfl
  | ok place => exact same place (Path.isConfined_of_normalize normal)

theorem read?_of_fileAt? {tree : FileTree} {root : List String} {place text : String}
    (isText : (folder tree root).fileAt? place = .ok (some text)) :
    tree.read? (root ++ splitText '/' place) = some text := by
  simp only [fileAt?] at isText
  split at isText
  · cases isText
  · exact Except.ok.inj isText

/-- Folders that hold the same files below their roots are the same inside. -/
theorem sameInside_folder {tree tree' : FileTree} {root : List String}
    (same : ∀ segments, segments ≠ [] → (∀ segment ∈ segments, Path.IsPlain segment.toList) →
      tree.read? (root ++ segments) = tree'.read? (root ++ segments)) :
    SameInside (folder tree root) (folder tree' root) := by
  intro place confined
  obtain ⟨nonempty, plain⟩ := confined.segments
  have sameText := same _ nonempty fun segment member => (plain segment member).1
  simp only [fileAt?, sameText]

end Source

namespace Library

/-! ## What is read -/

/-- A page is what a text at a confined place says. -/
def LiesInside (library : Library) (page : Page) : Prop :=
  ∃ place text, Path.normalize page.path = .ok place ∧ Path.IsConfined place ∧
    library.source.fileAt? place = .ok (some text) ∧ Page.parse page.id page.path text = .ok page

/-- A text at a confined place is refused as a page. -/
def RefusesInside (library : Library) (fault : Fault) : Prop :=
  ∃ id path place text, Path.normalize path = .ok place ∧ Path.IsConfined place ∧
    library.source.fileAt? place = .ok (some text) ∧ Page.parse id path text = .error fault

/-- No text stands behind a fault: nothing was found, or the source refused a path. -/
def IsWithoutText (fault : Fault) : Prop :=
  (∃ kind name, fault = .notFound kind name) ∨ ∃ cause, fault = .mishap cause

/-- A page was in a cache before, or lies inside. -/
def IsKnown (library : Library) (before : Cache) (page : Page) : Prop :=
  (∃ id, before.page? id = some page) ∨ library.LiesInside page

/-- All pages of a cache are known. -/
def KnowsAll (library : Library) (before cache : Cache) : Prop :=
  ∀ id page, cache.page? id = some page → library.IsKnown before page

theorem id_path_of_parse {id path text : String} {page : Page} (parsed : Page.parse id path text = .ok page) :
    page.id = id ∧ page.path = path := by
  obtain ⟨matter, rest, nodes, -, -, rfl⟩ := Page.parse_eq_ok.1 parsed
  exact ⟨rfl, rfl⟩

theorem liesInside_of_readPage {library : Library} {id : String} {page : Page}
    (read : library.readPage id = .ok (some page)) : library.LiesInside page := by
  unfold readPage at read
  obtain ⟨file, found, read⟩ := bind_eq_ok.1 read
  cases file with
  | none => cases read
  | some file =>
      obtain ⟨path, text⟩ := file
      obtain ⟨parsed, isParsed, read⟩ := bind_eq_ok.1 read
      cases read
      obtain ⟨-, got⟩ := of_firstText (mapError_eq_ok.1 found)
      obtain ⟨place, normal, confined, isText⟩ := Source.place_of_get? got
      obtain ⟨isId, isPath⟩ := id_path_of_parse isParsed
      refine ⟨place, text, ?_, confined, isText, ?_⟩
      · rwa [isPath]
      · rwa [isId, isPath]

theorem refusesInside_of_readPage {library : Library} {id : String} {fault : Fault}
    (failed : library.readPage id = .error fault) : library.RefusesInside fault ∨ IsWithoutText fault := by
  unfold readPage at failed
  rcases bind_eq_error.1 failed with unread | ⟨file, found, failed⟩
  · obtain ⟨cause, -, rfl⟩ := mapError_eq_error.1 unread
    exact .inr (.inr ⟨cause, rfl⟩)
  · cases file with
    | none => cases failed
    | some file =>
        obtain ⟨path, text⟩ := file
        obtain ⟨-, got⟩ := of_firstText (mapError_eq_ok.1 found)
        obtain ⟨place, normal, confined, isText⟩ := Source.place_of_get? got
        rcases bind_eq_error.1 failed with refused | ⟨page, -, made⟩
        · exact .inl ⟨id, path, place, text, normal, confined, isText, refused⟩
        · cases made

/-! ## What is found -/

/-- Work on a cache that adds and finds pages from inside only, and refuses texts from inside only. -/
def StaysInside (library : Library) (before : Cache) (work : Work Cache (Option Page)) : Prop :=
  Work.Safe (library.KnowsAll before) (fun fault => library.RefusesInside fault ∨ IsWithoutText fault)
    (fun found => ∀ page, found = some page → library.IsKnown before page) work

section Inside

variable {library : Library} {before : Cache}

theorem staysInside_none : library.StaysInside before (pure none) :=
  Work.Safe.pure nofun

theorem staysInside_some {page : Page} (isKnown : library.IsKnown before page) :
    library.StaysInside before (pure (some page)) := by
  apply Work.Safe.pure
  intro other same
  rwa [← Option.some.inj same]

theorem pageWithId_staysInside (id : String) : library.StaysInside before (library.pageWithId id) := by
  intro cache knowsAll
  unfold pageWithId
  cases isCached : cache.page? id with
  | some page =>
      refine ⟨knowsAll, ?_, ?_⟩
      · intro found isFound other same
        cases isFound
        cases same
        exact knowsAll id page isCached
      · intro fault failed
        cases failed
  | none =>
      dsimp only
      cases read : library.readPage id with
      | error fault =>
          refine ⟨knowsAll, ?_, ?_⟩
          · intro found isFound
            cases isFound
          · intro other same
            cases same
            exact refusesInside_of_readPage read
      | ok found =>
          cases found with
          | none =>
              refine ⟨knowsAll, ?_, ?_⟩
              · intro found isFound other same
                cases isFound
                cases same
              · intro fault failed
                cases failed
          | some page =>
              have isKnown : library.IsKnown before page := .inr (liesInside_of_readPage read)
              refine ⟨?_, ?_, ?_⟩
              · intro other found isFound
                rw [Cache.page?_addPage] at isFound
                split at isFound
                · rwa [← Option.some.inj isFound]
                · exact knowsAll other found isFound
              · intro found isFound other same
                cases isFound
                cases same
                exact isKnown
              · intro fault failed
                cases failed

theorem findPage_staysInside (name : String) : library.StaysInside before (library.findPage name) := by
  unfold findPage
  cases library.pageId name with
  | ok id => exact pageWithId_staysInside id
  | error cause => exact staysInside_none

theorem firstPage_staysInside (names : List String) : library.StaysInside before (library.firstPage names) := by
  induction names with
  | nil => exact staysInside_none
  | cons name names inductionHypothesis =>
      apply Work.Safe.bind (findPage_staysInside name)
      intro found isKnown
      cases found with
      | some page => exact staysInside_some (isKnown page rfl)
      | none => exact inductionHypothesis

theorem firstOtherPage_staysInside (id : String) (names : List String) :
    library.StaysInside before (library.firstOtherPage id names) := by
  induction names with
  | nil => exact staysInside_none
  | cons name names inductionHypothesis =>
      apply Work.Safe.bind (findPage_staysInside name)
      intro found isKnown
      cases found with
      | none => exact inductionHypothesis
      | some page =>
          dsimp only
          split
          · exact staysInside_some (isKnown page rfl)
          · exact inductionHypothesis

theorem findLayout_staysInside (page : Page) (layoutName : String) :
    library.StaysInside before (library.findLayout page layoutName) := by
  unfold findLayout
  cases page.layout with
  | none => exact firstOtherPage_staysInside _ _
  | some name =>
      dsimp only
      split
      · exact staysInside_none
      · apply Work.Safe.bind (firstPage_staysInside _)
        intro found isKnown
        cases found with
        | some layout => exact staysInside_some (isKnown layout rfl)
        | none => exact Work.Safe.throw (.inr (.inl ⟨_, _, rfl⟩))

end Inside

/-! ## What does not matter -/

section Same

variable {left right : Source} (same : Source.SameInside left right) (extension : String)

include same

theorem firstText_sameInside (paths : List String) : firstText left paths = firstText right paths := by
  induction paths with
  | nil => rfl
  | cons path paths inductionHypothesis =>
      rw [firstText, firstText, Source.get?_sameInside same, inductionHypothesis]

theorem readPage_sameInside (id : String) :
    readPage ⟨left, extension⟩ id = readPage ⟨right, extension⟩ id := by
  unfold readPage
  rw [firstText_sameInside same]
  rfl

theorem findPage_sameInside (name : String) :
    findPage ⟨left, extension⟩ name = findPage ⟨right, extension⟩ name := by
  unfold findPage pageWithId
  rw [funext (readPage_sameInside same extension)]
  rfl

theorem firstPage_sameInside (names : List String) :
    firstPage ⟨left, extension⟩ names = firstPage ⟨right, extension⟩ names := by
  induction names with
  | nil => rfl
  | cons name names inductionHypothesis =>
      rw [firstPage, firstPage, findPage_sameInside same, inductionHypothesis]

theorem firstOtherPage_sameInside (id : String) (names : List String) :
    firstOtherPage ⟨left, extension⟩ id names = firstOtherPage ⟨right, extension⟩ id names := by
  induction names with
  | nil => rfl
  | cons name names inductionHypothesis =>
      rw [firstOtherPage, firstOtherPage, findPage_sameInside same, inductionHypothesis]

theorem findLayout_sameInside (page : Page) (layoutName : String) :
    findLayout ⟨left, extension⟩ page layoutName = findLayout ⟨right, extension⟩ page layoutName := by
  unfold findLayout
  rw [funext (firstPage_sameInside same extension), funext (firstOtherPage_sameInside same extension page.id)]

end Same

end Library

/-- Paths stay below the root. A path is refused as a wrong value, or its canonical form has no backslash, no slash
in front, and only segments that lead down. So whatever path a source is asked for, a text that it gives comes from
a confined place; in a folder that is a file below the root of the folder. Whatever the extension of pages and the
names of pages and layouts are, what finding a page or a layout adds to a cache or gives is read from a confined
place, and so is what it refuses as malformed. Sources that have the same at all confined places cannot be told
apart by finding pages and layouts. -/
theorem reads_stay_inside :
    (∀ path, (∃ place, Path.normalize path = .ok place ∧ Path.IsConfined place) ∨
        ∃ cause, Path.normalize path = .error cause ∧ cause.kindName = "ValueError") ∧
      (∀ (source : Source) path text, source.get? path = .ok (some text) →
        ∃ place, Path.normalize path = .ok place ∧ Path.IsConfined place ∧
          source.fileAt? place = .ok (some text) ∧
          ∀ tree root, source = .folder tree root → ∃ segments, segments ≠ [] ∧
            (∀ segment ∈ segments, Path.IsPlain segment.toList ∧ '/' ∉ segment.toList) ∧
              tree.read? (root ++ segments) = some text) ∧
      (∀ (library : Library) before,
        (∀ name, library.StaysInside before (library.findPage name)) ∧
          ∀ page layoutName, library.StaysInside before (library.findLayout page layoutName)) ∧
      ∀ left right extension, Source.SameInside left right →
        (∀ name, Library.findPage ⟨left, extension⟩ name = Library.findPage ⟨right, extension⟩ name) ∧
          ∀ page layoutName, Library.findLayout ⟨left, extension⟩ page layoutName =
            Library.findLayout ⟨right, extension⟩ page layoutName := by
  refine ⟨?_, ?_, ?_, ?_⟩
  · intro path
    cases normal : Path.normalize path with
    | ok place => exact .inl ⟨place, rfl, Path.isConfined_of_normalize normal⟩
    | error cause => exact .inr ⟨cause, rfl, Path.kindName_of_normalize normal⟩
  · intro source path text got
    obtain ⟨place, normal, confined, isText⟩ := Source.place_of_get? got
    refine ⟨place, normal, confined, isText, ?_⟩
    rintro tree root rfl
    obtain ⟨nonempty, leadDown⟩ := confined.segments
    exact ⟨_, nonempty, leadDown, Source.read?_of_fileAt? isText⟩
  · intro library before
    exact ⟨Library.findPage_staysInside, Library.findLayout_staysInside⟩
  · intro left right extension same
    exact ⟨Library.findPage_sameInside same extension, Library.findLayout_sameInside same extension⟩

/-- The law for a folder with a file beside it: a path that climbs and comes back is read below the root, one that
climbs out is refused, a page of the folder is read from there, and with an extension that climbs out the file
beside the folder makes no difference. -/
theorem reads_stay_inside_beside_secret :
    let pages := [(["srv", "pages", "docs", "a.html"], "A"), (["srv", "pages", "docs", "_layout.html"], "L")]
    let root := ["srv", "pages"]
    let source : Source := .folder ⟨pages ++ [(["srv", "secret.html"], "S")]⟩ root
    let climbing := "/../../secret.html"
    source.get? " \\docs//x/../a.html" = .ok (some "A") ∧
      Path.normalize " \\docs//x/../a.html" = .ok "docs/a.html" ∧ Path.IsConfined "docs/a.html" ∧
      (∃ cause, Path.normalize "docs/../../secret.html" = .error cause ∧ cause.kindName = "ValueError") ∧
      (∃ page, (Library.findPage ⟨source, ".html"⟩ "docs/a" .empty).1 = .ok (some page) ∧
        Library.LiesInside ⟨source, ".html"⟩ page) ∧
      Source.SameInside source (.folder ⟨pages⟩ root) ∧
      ∀ layoutName page, Library.findLayout ⟨source, climbing⟩ page layoutName =
        Library.findLayout ⟨.folder ⟨pages⟩ root, climbing⟩ page layoutName := by
  intro pages root source climbing
  obtain ⟨paths, texts, finding, sources⟩ := reads_stay_inside
  have got : source.get? " \\docs//x/../a.html" = .ok (some "A") := by decide +kernel
  have normal : Path.normalize " \\docs//x/../a.html" = .ok "docs/a.html" := by decide +kernel
  have confined : Path.IsConfined "docs/a.html" := by
    obtain ⟨place, isPlace, confined, -⟩ := texts source _ _ got
    cases normal.symm.trans isPlace
    exact confined
  have refused : ∃ cause, Path.normalize "docs/../../secret.html" = .error cause ∧
      cause.kindName = "ValueError" := by
    rcases paths "docs/../../secret.html" with ⟨place, normal, -⟩ | refused
    · have escapes : Path.normalize "docs/../../secret.html" = .error (.escapingPath "docs/../../secret.html") := by
        decide +kernel
      cases escapes.symm.trans normal
    · exact refused
  have same : Source.SameInside source (.folder ⟨pages⟩ root) := by
    apply Source.sameInside_folder
    intro segments nonempty plain
    simp [FileTree.read?, pages, root, List.lookup_cons]
  obtain ⟨page, found⟩ : ∃ page, (Library.findPage ⟨source, ".html"⟩ "docs/a" .empty).1 = .ok (some page) := by
    have isThere : ((Library.findPage ⟨source, ".html"⟩ "docs/a" .empty).1.map Option.isSome) = .ok true := by
      decide +kernel
    obtain ⟨found, isFound, isSome⟩ := map_eq_ok.1 isThere
    obtain ⟨page, rfl⟩ := Option.isSome_iff_exists.1 isSome
    exact ⟨page, isFound⟩
  obtain ⟨-, isKnown, -⟩ := (finding ⟨source, ".html"⟩ .empty).1 "docs/a" .empty nofun
  have inside : Library.LiesInside ⟨source, ".html"⟩ page := by
    rcases isKnown _ found page rfl with ⟨id, unread⟩ | inside
    · cases unread
    · exact inside
  exact ⟨got, normal, confined, refused, ⟨page, found, inside⟩, same,
    fun layoutName page => (sources source _ climbing same).2 page layoutName⟩

end Folio
