import Folio.Proofs.Site.Entrances
import Folio.Proofs.Site.Names

/-!
Contract: the layout that is nearest to a page.

Owns: the folders above a page as a walk to the root, and the paths of layouts in them; which of the folders offers
a layout; and that the search for a layout ends with the one that the nearest of these offers.

Does not own: layouts that a page names.
-/

namespace Folio

open Folio.Text

namespace Path

/-! ## The folders above a page -/

/-- The folders above a page are the fronts of its segments, the longest one first. -/
theorem foldersUp_eq_map (path : String) :
    foldersUp path = (List.range (splitOn '/' path.toList).length).reverse.map fun depth =>
      String.ofList (joinWith '/' ((splitOn '/' path.toList).take depth)) := by
  have positive := List.length_pos_iff.2 (splitOn_ne_nil '/' path.toList)
  unfold foldersUp
  dsimp only
  rw [List.length_dropLast, Nat.sub_add_cancel positive]
  apply List.map_congr_left
  intro depth member
  have inside : depth < (splitOn '/' path.toList).length := by simpa using member
  rw [List.dropLast_eq_take, List.take_take, Nat.min_eq_left (by omega)]

section Segments

variable {segments : List (List Char)} (parts : ∀ segment ∈ segments, segment ≠ [] ∧ '/' ∉ segment)

include parts

theorem splitOn_of_segments (nonempty : segments ≠ []) :
    splitOn '/' (String.ofList (joinWith '/' segments)).toList = segments := by
  rw [String.toList_ofList]
  exact splitOn_joinWith nonempty fun segment member => (parts segment member).2

theorem ofList_joinWith_ne (nonempty : segments ≠ []) : String.ofList (joinWith '/' segments) ≠ "" := by
  intro isEmpty
  have isSplit := splitOn_of_segments parts nonempty
  rw [isEmpty] at isSplit
  have member : [] ∈ segments := by
    rw [← isSplit]
    exact List.mem_singleton_self []
  exact (parts [] member).1 rfl

/-- A name that does not start at the root is put behind the segments of a folder. -/
theorem join_of_segments {name : String} (notRooted : name.toList.head? ≠ some '/') :
    join (String.ofList (joinWith '/' segments)) name =
      String.ofList (joinWith '/' (segments ++ [name.toList])) := by
  unfold join
  by_cases isRoot : segments = []
  · subst isRoot
    rw [if_pos (.inr rfl)]
    exact String.ofList_toList.symm
  · have noSlash : (String.ofList (joinWith '/' segments)).toList.getLast? ≠ some '/' := by
      rw [String.toList_ofList, getLast?_joinWith '/' segments fun segment member => (parts segment member).1]
      intro isLast
      obtain ⟨segment, isFinal, isSlash⟩ := Option.bind_eq_some_iff.1 isLast
      exact (parts segment (List.mem_of_getLast? isFinal)).2 (List.mem_of_getLast? isSlash)
    rw [if_neg (not_or.2 ⟨notRooted, ofList_joinWith_ne parts isRoot⟩), if_neg noSlash]
    apply String.toList_injective
    rw [joinWith_concat '/' isRoot]
    simp

end Segments

section Steps

variable {segments : List (List Char)} {last : List Char}
  (parts : ∀ segment ∈ segments ++ [last], segment ≠ [] ∧ '/' ∉ segment)

include parts

theorem folder_of_segments :
    folder (String.ofList (joinWith '/' (segments ++ [last]))) = String.ofList (joinWith '/' segments) := by
  unfold folder
  rw [splitOn_of_segments parts (by simp), List.dropLast_concat]

/-- Above a page there is its folder, and what is above that. -/
theorem foldersUp_of_segments :
    foldersUp (String.ofList (joinWith '/' (segments ++ [last]))) =
      String.ofList (joinWith '/' segments) ::
        if segments = [] then [] else foldersUp (String.ofList (joinWith '/' segments)) := by
  have inFront := fun segment member => parts segment (List.mem_append_left [last] member)
  rw [foldersUp_eq_map, splitOn_of_segments parts (by simp), List.length_append, List.length_singleton,
    List.range_succ, List.reverse_append, List.reverse_singleton, List.singleton_append, List.map_cons,
    List.take_left]
  congr 1
  by_cases isRoot : segments = []
  · rw [if_pos isRoot, isRoot]
    rfl
  · rw [if_neg isRoot, foldersUp_eq_map, splitOn_of_segments inFront isRoot]
    apply List.map_congr_left
    intro depth member
    have inside : depth < segments.length := by simpa using member
    rw [List.take_append_of_le_length (by omega)]

theorem walk_of_segments :
    List.IsChain (fun below above => folder below = above)
        (String.ofList (joinWith '/' (segments ++ [last])) ::
          foldersUp (String.ofList (joinWith '/' (segments ++ [last])))) ∧
      ∃ front, foldersUp (String.ofList (joinWith '/' (segments ++ [last]))) = front ++ [""] ∧ "" ∉ front := by
  -- The walk takes one segment after the other away from the end.
  induction segments using List.reverseRecOn generalizing last with
  | nil =>
      rw [foldersUp_of_segments parts, if_pos rfl, List.isChain_cons_cons]
      exact ⟨⟨folder_of_segments parts, .singleton _⟩, [], rfl, List.not_mem_nil⟩
  | append_singleton segments top inductionHypothesis =>
      have inFront := fun segment member => parts segment (List.mem_append_left [last] member)
      obtain ⟨chain, front, ends, isRest⟩ := inductionHypothesis inFront
      rw [foldersUp_of_segments parts, if_neg (by simp), List.isChain_cons_cons]
      refine ⟨⟨folder_of_segments parts, chain⟩,
        String.ofList (joinWith '/' (segments ++ [top])) :: front, ?_, ?_⟩
      · rw [ends]
        rfl
      · rw [List.mem_cons, not_or]
        exact ⟨(ofList_joinWith_ne inFront (by simp)).symm, isRest⟩

end Steps

/-- The folders above a page are those that a walk comes by which goes from the page to its folder, from there to
the folder of that, and so on, and ends at the root. -/
theorem foldersUp_walk {path : String} (nonempty : ∀ segment ∈ splitOn '/' path.toList, segment ≠ []) :
    List.IsChain (fun below above => folder below = above) (path :: foldersUp path) ∧
      ∃ front, foldersUp path = front ++ [""] ∧ "" ∉ front := by
  obtain ⟨segments, last, isSplit⟩ := (List.eq_nil_or_concat' _).resolve_left (splitOn_ne_nil '/' path.toList)
  have isPath : path = String.ofList (joinWith '/' (segments ++ [last])) := by
    rw [← isSplit, joinWith_splitOn, String.ofList_toList]
  rw [isPath]
  apply walk_of_segments
  rw [← isSplit]
  intro segment member
  exact ⟨nonempty segment member, notMem_of_mem_splitOn member⟩

/-! ## Paths of layouts -/

/-- An ASCII letter or digit, an underscore or a hyphen. -/
def isNameMark (char : Char) : Bool :=
  isLetter char || isAsciiDigit char || char = '_' || char = '-'

/-- A name of letters, digits, underscores and hyphens. -/
def IsLayoutName (name : String) : Prop :=
  name ≠ "" ∧ ∀ char ∈ name.toList, isNameMark char = true

/-- The path of a name in the folder that is so many segments down on the way to a page. -/
def onWayTo (path name : String) (depth : Nat) : String :=
  String.ofList (joinWith '/' ((splitOn '/' path.toList).take depth ++ [name.toList]))

namespace IsLayoutName

variable {name : String} (isName : IsLayoutName name)

include isName

theorem ne_nil : name.toList ≠ [] := by
  intro isEmpty
  exact isName.1 (String.toList_eq_nil_iff.1 isEmpty)

theorem notMem {char : Char} (other : isNameMark char = false) : char ∉ name.toList := by
  intro member
  rw [isName.2 char member] at other
  cases other

theorem notBlank {char : Char} (member : char ∈ name.toList) : isBlank char = false := by
  have isMark := isName.2 char member
  simp only [isNameMark, Bool.or_eq_true, decide_eq_true_eq] at isMark
  rcases isMark with ((letter | digit) | rfl) | rfl
  · exact isBlank_of_isLetter letter
  · simp only [isAsciiDigit, Bool.and_eq_true, decide_eq_true_eq, Char.le_def, UInt32.le_iff_toNat_le,
      Char.reduceVal, UInt32.reduceToNat, Char.toNat_val] at digit
    simp [isBlank, blanks, Ranges.has]
    omega
  · decide
  · decide

theorem isPlain : IsPlain name.toList := by
  have isLast := List.getLast?_eq_getLast_of_ne_nil isName.ne_nil
  apply isPlain_of_getLast? isLast
  intro isPoint
  have noPoint : '.' ∉ name.toList := isName.notMem (by decide)
  rw [isPoint] at isLast
  exact noPoint (List.mem_of_getLast? isLast)

variable {path : String}

/-- No extension stands at the end of the path of a layout: its name has no point, and what is in front of that is a
slash. -/
theorem not_suffix_onWayTo {extension : String} (isExtension : IsExtension extension) (depth : Nat) :
    ¬ extension.toList <:+ (onWayTo path name depth).toList := by
  have noPoint : '.' ∉ name.toList := isName.notMem (by decide)
  have noSlash : '/' ∉ extension.toList := isExtension.notMem (by decide) (by decide)
  have hasPoint : '.' ∈ extension.toList := by
    obtain ⟨letters, isText, -⟩ := isExtension
    rw [isText]
    exact List.mem_cons_self
  unfold onWayTo
  rw [String.toList_ofList]
  intro isSuffix
  by_cases isRoot : (splitOn '/' path.toList).take depth = []
  · rw [isRoot] at isSuffix
    exact noPoint (isSuffix.subset hasPoint)
  · rw [joinWith_concat '/' isRoot] at isSuffix
    rcases List.suffix_or_suffix_of_suffix isSuffix (List.suffix_append _ _) with inName | inExtension
    · rcases List.mem_cons.1 (inName.subset hasPoint) with isSlash | member
      · cases isSlash
      · exact noPoint member
    · exact noSlash (inExtension.subset List.mem_cons_self)

variable (canonical : normalize path = .ok path)

include canonical

/-- The segments of a layout lead down. -/
theorem segments_onWayTo (depth : Nat) :
    ∀ segment ∈ (splitOn '/' path.toList).take depth ++ [name.toList], IsPlain segment ∧ '/' ∉ segment := by
  intro segment member
  rcases List.mem_append.1 member with inFront | isLast
  · have isSegment := List.mem_of_mem_take inFront
    exact ⟨(normalize_eq_self_iff.1 canonical).2 segment isSegment, notMem_of_mem_splitOn isSegment⟩
  · rw [List.mem_singleton.1 isLast]
    exact ⟨isName.isPlain, isName.notMem (by decide)⟩

theorem splitOn_onWayTo (depth : Nat) :
    splitOn '/' (onWayTo path name depth).toList = (splitOn '/' path.toList).take depth ++ [name.toList] := by
  apply splitOn_of_segments _ (by simp)
  intro segment member
  have isSegment := isName.segments_onWayTo canonical depth segment member
  exact ⟨isSegment.1.1, isSegment.2⟩

/-- No blank stands at the ends of the path of a layout: it starts as the path of the page does, or with the name. -/
theorem strip_onWayTo (depth : Nat) :
    strip (onWayTo path name depth).toList = (onWayTo path name depth).toList := by
  have nonempty : ∀ segment ∈ splitOn '/' path.toList, segment ≠ [] := by
    intro segment member
    exact ((normalize_eq_self_iff.1 canonical).2 segment member).1
  have stripped := (normalize_again_iff canonical).1 canonical
  rw [← joinWith_splitOn '/' path.toList, strip_joinWith_iff '/' nonempty] at stripped
  unfold onWayTo
  rw [String.toList_ofList, strip_joinWith_iff '/' fun segment member =>
    (isName.segments_onWayTo canonical depth segment member).1.1]
  constructor
  · intro char isHead
    cases depth with
    | zero => exact isName.notBlank (List.mem_of_head? isHead)
    | succ depth =>
        apply stripped.1
        obtain ⟨first, rest, isSplit⟩ := List.exists_cons_of_ne_nil (splitOn_ne_nil '/' path.toList)
        rw [isSplit] at isHead ⊢
        exact isHead
  · intro char isLast
    rw [List.getLast?_concat] at isLast
    exact isName.notBlank (List.mem_of_getLast? isLast)

theorem backslash_notMem_onWayTo (depth : Nat) : '\\' ∉ (onWayTo path name depth).toList := by
  unfold onWayTo
  rw [String.toList_ofList]
  intro member
  rcases mem_joinWith member with isSlash | ⟨segment, isSegment, inSegment⟩
  · cases isSlash
  · rcases List.mem_append.1 isSegment with inFront | isLast
    · apply notMem_of_normalize canonical
      rw [← joinWith_splitOn '/' path.toList]
      exact mem_joinWith_of_mem '/' (List.mem_of_mem_take inFront) inSegment
    · rw [List.mem_singleton.1 isLast] at inSegment
      exact isName.notMem (by decide) inSegment

/-- The path of a layout is canonical. -/
theorem normalize_onWayTo (depth : Nat) :
    normalize (onWayTo path name depth) = .ok (onWayTo path name depth) := by
  apply normalize_of_plain
  · unfold clean
    rw [slashed_of_notMem (isName.backslash_notMem_onWayTo canonical depth), isName.strip_onWayTo canonical]
  · rw [isName.splitOn_onWayTo canonical]
    intro segment member
    exact (isName.segments_onWayTo canonical depth segment member).1

end IsLayoutName

end Path

namespace Library

variable {library : Library} {files : List (String × String)} {id name : String}

/-! ## Files under an identity -/

/-- A file lies under an identity, with the page extension or without. -/
def HasFile (library : Library) (id : String) : Prop :=
  ∃ text, library.source.get? (id ++ library.extension) = .ok (some text) ∨ library.source.get? id = .ok (some text)

theorem isSome_join_iff {outcome : Except Mishap (Option String)} :
    outcome.toOption.join.isSome = true ↔ ∃ text, outcome = .ok (some text) := by
  rcases outcome with cause | found
  · simp [Except.toOption]
  · cases found <;> simp [Except.toOption]

instance decidableHasFile (library : Library) (id : String) : Decidable (library.HasFile id) :=
  decidable_of_iff
    ((library.source.get? (id ++ library.extension)).toOption.join.isSome = true ∨
      (library.source.get? id).toOption.join.isSome = true)
    (by rw [isSome_join_iff, isSome_join_iff, HasFile, exists_or])

/-- A page is what the file under an identity says, the one with the page extension if there is one. -/
def IsPageAt (library : Library) (id : String) (page : Page) : Prop :=
  page.id = id ∧ ∃ text, library.source.get? page.path = .ok (some text) ∧ Page.parse id page.path text = .ok page ∧
    (page.path = id ++ library.extension ∨
      page.path = id ∧ library.source.get? (id ++ library.extension) = .ok none)

theorem pageId_onWayTo (isExtension : Path.IsExtension library.extension) (isName : Path.IsLayoutName name)
    (canonical : Path.normalize id = .ok id) (depth : Nat) :
    library.pageId (Path.onWayTo id name depth) = .ok (Path.onWayTo id name depth) := by
  have notSuffix : ¬ library.extension.toList <:+ (Path.onWayTo id name depth).toList :=
    isName.not_suffix_onWayTo isExtension depth
  unfold pageId dropExtension
  rw [isName.normalize_onWayTo canonical]
  refine congrArg Except.ok (if_neg ?_)
  simp [notSuffix]

theorem IsLoadable.get?_of_canonical (loadable : library.IsLoadable files) {path : String}
    (canonical : Path.normalize path = .ok path) : library.source.get? path = .ok (files.lookup path) := by
  rw [loadable.get?_eq, canonical]
  rfl

theorem isPageAt_of_parse {path text : String} {page : Page} (got : library.source.get? path = .ok (some text))
    (parsed : Page.parse id path text = .ok page)
    (comesFirst : path = id ++ library.extension ∨
      path = id ∧ library.source.get? (id ++ library.extension) = .ok none) : library.IsPageAt id page := by
  obtain ⟨_, _, _, -, -, isPage⟩ := Page.parse_eq_ok.1 parsed
  have isPath : page.path = path := by rw [isPage]
  refine ⟨by rw [isPage], text, ?_⟩
  rw [isPath]
  exact ⟨got, parsed, comesFirst⟩

/-- Where a file lies under an identity, its page is read; elsewhere none is. -/
theorem IsLoadable.readPage_cases (loadable : library.IsLoadable files)
    (isExtension : Path.IsExtension library.extension) (canonical : Path.normalize id = .ok id) :
    (library.HasFile id ∧ ∃ page, library.readPage id = .ok (some page) ∧ library.IsPageAt id page) ∨
      ¬ library.HasFile id ∧ library.readPage id = .ok none := by
  have longer := loadable.get?_of_canonical (Path.normalize_append canonical isExtension)
  have shorter := loadable.get?_of_canonical canonical
  rw [Library.readPage_memory loadable.source isExtension canonical]
  unfold HasFile loadFrom
  beta_reduce
  rw [longer, shorter]
  cases isText : files.lookup (id ++ library.extension) with
  | some text =>
      rw [isText] at longer
      obtain ⟨page, parsed⟩ := loadable.parse longer id (id ++ library.extension)
      refine .inl ⟨⟨text, .inl rfl⟩, page, ?_, isPageAt_of_parse longer parsed (.inl rfl)⟩
      exact congrArg (Except.map some) parsed
  | none =>
      rw [isText] at longer
      cases isText' : files.lookup id with
      | some text =>
          rw [isText'] at shorter
          obtain ⟨page, parsed⟩ := loadable.parse shorter id id
          refine .inl ⟨⟨text, .inr rfl⟩, page, ?_, isPageAt_of_parse shorter parsed (.inr ⟨rfl, longer⟩)⟩
          exact congrArg (Except.map some) parsed
      | none => exact .inr ⟨by simp, rfl⟩

/-! ## The nearest layout -/

/-- In the folder that is so many segments down a layout lies, and it is not the page itself. -/
def OffersLayout (library : Library) (id name : String) (depth : Nat) : Prop :=
  library.HasFile (Path.onWayTo id name depth) ∧ Path.onWayTo id name depth ≠ id

instance decidableOffersLayout (library : Library) (id name : String) (depth : Nat) :
    Decidable (library.OffersLayout id name depth) :=
  inferInstanceAs (Decidable (_ ∧ _))

/-- Among the folders that are fewer than so many segments down, the page of the deepest one that offers a layout is
found, and nothing if none does. -/
structure IsNearestLayout (library : Library) (id name : String) (count : Nat) (found : Option Page) : Prop where
  deepest : ∀ depth < count, library.OffersLayout id name depth →
    (∀ deeper < count, depth < deeper → ¬ library.OffersLayout id name deeper) →
      ∃ layout, found = some layout ∧ library.IsPageAt (Path.onWayTo id name depth) layout
  nowhere : (∀ depth < count, ¬ library.OffersLayout id name depth) → found = none

namespace IsNearestLayout

variable {count : Nat} {found : Option Page}

/-- A folder further down that offers nothing makes no difference. -/
theorem skip (nearest : library.IsNearestLayout id name count found)
    (offersNone : ¬ library.OffersLayout id name count) : library.IsNearestLayout id name (count + 1) found where
  deepest := by
    intro depth below offers isDeepest
    have notCount : depth ≠ count := by
      rintro rfl
      exact offersNone offers
    apply nearest.deepest depth (by omega) offers
    intro deeper inside
    exact isDeepest deeper (by omega)
  nowhere := by
    intro offerNone
    apply nearest.nowhere
    intro depth below
    exact offerNone depth (by omega)

/-- A folder further down that offers a layout comes first. -/
theorem here {layout : Page} (offers : library.OffersLayout id name count)
    (isPage : library.IsPageAt (Path.onWayTo id name count) layout) :
    library.IsNearestLayout id name (count + 1) (some layout) where
  deepest := by
    intro depth below _ isDeepest
    have isCount : depth = count := by
      by_contra differs
      exact isDeepest count (by omega) (by omega) offers
    rw [isCount]
    exact ⟨layout, rfl, isPage⟩
  nowhere := by
    intro offerNone
    exact absurd offers (offerNone count (by omega))

end IsNearestLayout

/-- A name that stands for another page ends the search. -/
theorem firstOtherPage_settled_some {names : List String} {page : Page}
    (read : library.readNamed name = .ok (some page)) (differs : page.id ≠ id) :
    Settled library (library.firstOtherPage id (name :: names)) (.ok (some page)) := by
  have settled : Settled library (library.firstOtherPage id (name :: names))
      (library.readNamed name >>= fun _ => .ok (some page)) := by
    refine .bind (library.findPage_settled name) ?_
    intro found isFound
    cases read.symm.trans isFound
    dsimp only
    rw [if_pos (by simpa using differs)]
    exact .pure (some page)
  rwa [read] at settled

section Search

variable (loadable : library.IsLoadable files) (isExtension : Path.IsExtension library.extension)
  (isName : Path.IsLayoutName name) (canonical : Path.normalize id = .ok id)

include loadable isExtension isName canonical

/-- Whatever folders are left, the search among them ends with what is nearest in them. -/
theorem search_settled (count : Nat) :
    ∃ found, library.IsNearestLayout id name count found ∧
      Settled library (library.firstOtherPage id ((List.range count).reverse.map (Path.onWayTo id name)))
        (.ok found) := by
  induction count with
  | zero => exact ⟨none, ⟨nofun, fun _ => rfl⟩, .pure none⟩
  | succ count inductionHypothesis =>
      obtain ⟨found, nearest, settled⟩ := inductionHypothesis
      have read : library.readNamed (Path.onWayTo id name count) =
          library.readPage (Path.onWayTo id name count) := by
        unfold readNamed
        rw [library.pageId_onWayTo isExtension isName canonical]
      rw [List.range_succ, List.reverse_append, List.reverse_singleton, List.singleton_append, List.map_cons]
      rcases loadable.readPage_cases isExtension (isName.normalize_onWayTo canonical count) with
        ⟨hasFile, page, isRead, isPage⟩ | ⟨noFile, isMissing⟩
      · rw [← read] at isRead
        by_cases isSelf : Path.onWayTo id name count = id
        · have offersNone : ¬ library.OffersLayout id name count := fun offers => offers.2 isSelf
          refine ⟨found, nearest.skip offersNone, firstOtherPage_settled_cons (.inr ⟨page, isRead, ?_⟩) settled⟩
          exact isPage.1.trans isSelf
        · refine ⟨some page, .here ⟨hasFile, isSelf⟩ isPage, firstOtherPage_settled_some isRead ?_⟩
          rwa [isPage.1]
      · rw [← read] at isMissing
        have offersNone : ¬ library.OffersLayout id name count := fun offers => noFile offers.1
        exact ⟨found, nearest.skip offersNone, firstOtherPage_settled_cons (.inl isMissing) settled⟩

end Search

/-- The names that a search goes through are the paths of layouts in the folders above the page. -/
theorem layoutNames_eq (isName : Path.IsLayoutName name) (canonical : Path.normalize id = .ok id) :
    (Path.foldersUp id).map (fun folder => Path.join folder name) =
      (List.range (splitOn '/' id.toList).length).reverse.map (Path.onWayTo id name) := by
  rw [Path.foldersUp_eq_map, List.map_map]
  apply List.map_congr_left
  intro depth _
  apply Path.join_of_segments
  · intro segment member
    have isSegment := List.mem_of_mem_take member
    exact ⟨((Path.normalize_eq_self_iff.1 canonical).2 segment isSegment).1, notMem_of_mem_splitOn isSegment⟩
  · intro isSlash
    exact isName.notMem (by decide) (List.mem_of_head? isSlash)

end Library

/-- The search for a layout ends, with the one that is nearest. Take files in memory that can all be read as pages,
a page extension that is a point with letters, a name for layouts made of letters, digits, underscores and hyphens,
and a page that names no layout and has a canonical identity; and let what has been read be what the files say. The
folders above the page are those that a walk comes by which goes up one folder at a time and ends at the root. The
search never fails. It finds the layout in the deepest of these folders in which a file has the name, with the
extension or without, and is not the page itself: a page under the path of that file, read from it. Where there is
no such folder it finds none. -/
theorem nearest_layout_is_found {library : Library} {files : List (String × String)}
    (loadable : library.IsLoadable files) (isExtension : Path.IsExtension library.extension) {layoutName : String}
    (isName : Path.IsLayoutName layoutName) {page : Page} (unnamed : page.layout = none)
    (canonical : Path.normalize page.id = .ok page.id) {cache : Cache} (faithful : cache.Faithful library) :
    (List.IsChain (fun below above => Path.folder below = above) (page.id :: Path.foldersUp page.id) ∧
        ∃ front, Path.foldersUp page.id = front ++ [""] ∧ "" ∉ front) ∧
      ∃ found, (library.findLayout page layoutName cache).1 = .ok found ∧
        library.IsNearestLayout page.id layoutName (splitOn '/' page.id.toList).length found := by
  constructor
  · apply Path.foldersUp_walk
    intro segment member
    exact ((Path.normalize_eq_self_iff.1 canonical).2 segment member).1
  · obtain ⟨found, nearest, settled⟩ :=
      Library.search_settled loadable isExtension isName canonical (splitOn '/' page.id.toList).length
    refine ⟨found, ?_, nearest⟩
    unfold Library.findLayout
    rw [unnamed]
    dsimp only
    rw [Library.layoutNames_eq isName canonical]
    exact (settled cache faithful).1

/-- The law for a page two folders below a layout without the extension, and for that layout itself, which is passed
over for the one at the root. -/
theorem nearest_layout_is_found_in_folders :
    let files := [("_layout.html", "root"), ("docs/_layout", "docs"), ("docs/api/v1/page.html", "page")]
    let library : Library := ⟨.memory files, ".html"⟩
    let page : Page := ⟨"docs/api/v1/page", "docs/api/v1/page.html", [], none, []⟩
    let layout : Page := ⟨"docs/_layout", "docs/_layout", [], none, []⟩
    (∃ found, (library.findLayout page "_layout" .empty).1 = .ok (some found) ∧ found.id = "docs/_layout") ∧
      ∃ found, (library.findLayout layout "_layout" .empty).1 = .ok (some found) ∧ found.id = "_layout" := by
  intro files library page layout
  have loadable : library.IsLoadable files := Library.isLoadable_of_all rfl (by decide +kernel)
  have isName : Path.IsLayoutName "_layout" := ⟨by decide, List.all_eq_true.1 (by decide)⟩
  constructor
  · obtain ⟨-, found, isFound, nearest⟩ := nearest_layout_is_found loadable Path.isExtension_html isName
      (show page.layout = none from rfl) (by decide +kernel) (.empty library)
    obtain ⟨layout, rfl, isPage⟩ := nearest.deepest 1 (by decide) (by decide +kernel) (by decide +kernel)
    exact ⟨layout, isFound, isPage.1.trans (by decide +kernel)⟩
  · obtain ⟨-, found, isFound, nearest⟩ := nearest_layout_is_found loadable Path.isExtension_html isName
      (show layout.layout = none from rfl) (by decide +kernel) (.empty library)
    obtain ⟨root, rfl, isPage⟩ := nearest.deepest 0 (by decide) (by decide +kernel) (by decide +kernel)
    exact ⟨root, isFound, isPage.1.trans (by decide +kernel)⟩

end Folio
