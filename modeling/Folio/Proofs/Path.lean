import Folio.Path
import Folio.Proofs.Outcome
import Folio.Proofs.Site.Places
import Folio.Proofs.Text.Blank

/-!
Contract: canonical paths.

Owns: what the canonical form of a path is made of, when a path is its own canonical form, and that it stays so
with an extension behind it.

Does not own: which files lie under a path.
-/

namespace Folio.Path

open Folio.Text

/-- A segment that leads one step down. -/
def IsPlain (segment : List Char) : Prop :=
  segment ≠ [] ∧ segment ≠ current ∧ segment ≠ parent

/-! ## The room of segments -/

/-- The room that segments take, with a separator each. -/
def room : List (List Char) → Nat
  | [] => 0
  | segment :: segments => segment.length + 1 + room segments

theorem room_append (segments others : List (List Char)) :
    room (segments ++ others) = room segments + room others := by
  induction segments with
  | nil => simp [room]
  | cons segment segments inductionHypothesis =>
      rw [List.cons_append, room, room, inductionHypothesis, ← Nat.add_assoc]

theorem room_reverse (segments : List (List Char)) : room segments.reverse = room segments := by
  induction segments with
  | nil => rfl
  | cons segment segments inductionHypothesis =>
      rw [List.reverse_cons, room_append, inductionHypothesis, room, room, room]
      omega

theorem length_joinWith (separator : Char) {parts : List (List Char)} (nonempty : parts ≠ []) :
    (joinWith separator parts).length + 1 = room parts := by
  induction parts with
  | nil => exact absurd rfl nonempty
  | cons part parts inductionHypothesis =>
      cases parts with
      | nil => simp [joinWith, room]
      | cons next parts =>
          have later := inductionHypothesis (List.cons_ne_nil next parts)
          rw [joinWith_cons _ _ (List.cons_ne_nil next parts)]
          rw [List.length_append, List.length_cons, room]
          omega

theorem mem_joinWith {separator char : Char} {parts : List (List Char)}
    (member : char ∈ joinWith separator parts) : char = separator ∨ ∃ part ∈ parts, char ∈ part := by
  induction parts with
  | nil => simp [joinWith] at member
  | cons part parts inductionHypothesis =>
      cases parts with
      | nil => exact .inr ⟨part, by simp, member⟩
      | cons next parts =>
          rw [joinWith_cons _ _ (List.cons_ne_nil next parts), List.mem_append, List.mem_cons] at member
          rcases member with inPart | isSeparator | later
          · exact .inr ⟨part, by simp, inPart⟩
          · exact .inl isSeparator
          · apply (inductionHypothesis later).imp id
            rintro ⟨other, isPart, inOther⟩
            exact ⟨other, List.mem_cons_of_mem part isPart, inOther⟩

theorem mem_joinWith_of_mem (separator : Char) {char : Char} {parts : List (List Char)} {part : List Char}
    (isPart : part ∈ parts) (member : char ∈ part) : char ∈ joinWith separator parts := by
  induction parts with
  | nil => cases isPart
  | cons first parts inductionHypothesis =>
      cases parts with
      | nil =>
          cases List.mem_singleton.1 isPart
          exact member
      | cons next parts =>
          rw [joinWith_cons _ _ (List.cons_ne_nil next parts), List.mem_append, List.mem_cons]
          rcases List.mem_cons.1 isPart with rfl | later
          · exact .inl member
          · exact .inr (.inr (inductionHypothesis later))

/-! ## Stacks of segments -/

/-- Plain segments on top of two dots, any number of either. -/
def IsStack (stack : List (List Char)) : Prop :=
  ∃ plain count, stack = plain ++ List.replicate count parent ∧ ∀ segment ∈ plain, IsPlain segment

theorem stackSegment_of_plain {segment : List Char} (plain : IsPlain segment) (stack : List (List Char)) :
    stackSegment stack segment = segment :: stack := by
  obtain ⟨nonempty, notCurrent, notParent⟩ := plain
  unfold stackSegment
  rw [if_neg (by simp [nonempty, notCurrent]), if_neg notParent]

theorem IsStack.stackSegment {stack : List (List Char)} (isStack : IsStack stack) (segment : List Char) :
    IsStack (Path.stackSegment stack segment) := by
  obtain ⟨plain, count, rfl, arePlain⟩ := isStack
  unfold Path.stackSegment
  by_cases skipped : segment = [] ∨ segment = current
  · rw [if_pos skipped]
    exact ⟨plain, count, rfl, arePlain⟩
  · rw [if_neg skipped]
    by_cases climbs : segment = parent
    · rw [if_pos climbs]
      cases plain with
      | nil =>
          cases count with
          | zero => exact ⟨[], 1, rfl, arePlain⟩
          | succ count => exact ⟨[], count + 2, rfl, arePlain⟩
      | cons top below =>
          obtain ⟨isPlain, others⟩ := List.forall_mem_cons.1 arePlain
          simp only [List.cons_append, if_neg isPlain.2.2]
          exact ⟨below, count, rfl, others⟩
    · rw [if_neg climbs]
      rw [not_or] at skipped
      exact ⟨segment :: plain, count, rfl, List.forall_mem_cons.2 ⟨⟨skipped.1, skipped.2, climbs⟩, arePlain⟩⟩

theorem mem_stackSegment {stack : List (List Char)} {segment other : List Char}
    (member : other ∈ stackSegment stack segment) : other ∈ stack ∨ other = segment := by
  unfold stackSegment at member
  split at member
  · exact .inl member
  · split at member
    · rename_i climbs
      split at member
      · simp_all
      · split at member <;> simp_all
    · exact (List.mem_cons.1 member).symm

theorem room_stackSegment (stack : List (List Char)) (segment : List Char) :
    room (stackSegment stack segment) ≤ room stack + (segment.length + 1) := by
  unfold stackSegment
  split
  · omega
  · split
    · rename_i climbs
      subst climbs
      split
      · simp [room]
      · split <;> simp [room] <;> omega
    · simp [room]
      omega

theorem isStack_foldl (segments : List (List Char)) {stack : List (List Char)} (isStack : IsStack stack) :
    IsStack (segments.foldl stackSegment stack) := by
  induction segments generalizing stack with
  | nil => exact isStack
  | cons segment segments inductionHypothesis =>
      apply inductionHypothesis
      apply isStack.stackSegment

theorem mem_foldl_stackSegment {segments stack : List (List Char)} {other : List Char}
    (member : other ∈ segments.foldl stackSegment stack) : other ∈ stack ∨ other ∈ segments := by
  induction segments generalizing stack with
  | nil => exact .inl member
  | cons segment segments inductionHypothesis =>
      rcases inductionHypothesis member with onStack | later
      · apply (mem_stackSegment onStack).imp id
        rintro rfl
        apply List.mem_cons_self
      · exact .inr (List.mem_cons_of_mem segment later)

theorem room_foldl_stackSegment (segments stack : List (List Char)) :
    room (segments.foldl stackSegment stack) ≤ room stack + room segments := by
  induction segments generalizing stack with
  | nil => simp
  | cons segment segments inductionHypothesis =>
      have first := room_stackSegment stack segment
      have others := inductionHypothesis (stackSegment stack segment)
      rw [List.foldl_cons, room]
      omega

theorem foldl_stackSegment_of_plain {segments : List (List Char)} (plain : ∀ segment ∈ segments, IsPlain segment)
    (stack : List (List Char)) : segments.foldl stackSegment stack = segments.reverse ++ stack := by
  induction segments generalizing stack with
  | nil => rfl
  | cons segment segments inductionHypothesis =>
      obtain ⟨isPlain, others⟩ := List.forall_mem_cons.1 plain
      rw [List.foldl_cons, stackSegment_of_plain isPlain, inductionHypothesis others]
      simp

/-! ## Canonical forms -/

/-- The segments of a path, as they are written. -/
def segmentsOf (path : String) : List (List Char) :=
  splitOn '/' ((clean path).dropWhile (· = '/'))

theorem normalize_eq_ok {path result : String} :
    normalize path = .ok result ↔
      clean path ≠ [] ∧ ∃ first rest, reduceSegments (segmentsOf path) = first :: rest ∧ first ≠ parent ∧
        String.ofList (joinWith '/' (first :: rest)) = result := by
  unfold normalize segmentsOf
  by_cases isEmpty : clean path = []
  · simp [isEmpty]
  · have notEmpty : (clean path).isEmpty = false := by simpa using isEmpty
    rw [if_neg (by simp [notEmpty])]
    cases reduceSegments (splitOn '/' ((clean path).dropWhile (· = '/'))) with
    | nil => simp
    | cons first rest => by_cases climbs : first = parent <;> simp [isEmpty, climbs]

/-- What is left of segments that do not climb out leads down. -/
theorem plain_of_reduceSegments {segments rest : List (List Char)} {first : List Char}
    (reduced : reduceSegments segments = first :: rest) (stays : first ≠ parent) :
    ∀ segment ∈ first :: rest, IsPlain segment := by
  have onGround : IsStack [] := ⟨[], 0, rfl, by simp⟩
  obtain ⟨plain, count, isStack, arePlain⟩ := isStack_foldl segments onGround
  unfold reduceSegments at reduced
  rw [isStack, List.reverse_append, List.reverse_replicate] at reduced
  cases count with
  | zero =>
      rw [← reduced]
      intro segment member
      exact arePlain segment (by simpa using member)
  | succ count =>
      rw [List.replicate_succ] at reduced
      cases reduced
      exact absurd rfl stays

/-- The canonical form of a path leads down from the root, by segments of the path. -/
theorem segments_of_normalize {path result : String} (normal : normalize path = .ok result) :
    reduceSegments (segmentsOf path) = splitOn '/' result.toList ∧
      ∀ segment ∈ splitOn '/' result.toList, IsPlain segment ∧ segment ∈ segmentsOf path := by
  obtain ⟨-, first, rest, reduced, stays, rfl⟩ := normalize_eq_ok.1 normal
  have written : ∀ segment ∈ first :: rest, segment ∈ segmentsOf path := by
    intro segment member
    rw [← reduced] at member
    rcases mem_foldl_stackSegment (List.mem_reverse.1 member) with onStack | isWritten
    · cases onStack
    · exact isWritten
  have parts : splitOn '/' (joinWith '/' (first :: rest)) = first :: rest :=
    splitOn_joinWith (List.cons_ne_nil first rest) fun segment member =>
      notMem_of_mem_splitOn (written segment member)
  rw [String.toList_ofList, parts]
  refine ⟨reduced, ?_⟩
  intro segment member
  exact ⟨plain_of_reduceSegments reduced stays segment member, written segment member⟩

theorem mem_clean {path : String} {char : Char} (member : char ∈ clean path) : char ≠ '\\' := by
  have inSlashed := (infix_strip _).subset member
  obtain ⟨other, -, rfl⟩ := List.mem_map.1 inSlashed
  split
  · decide
  · assumption

/-- No backslash is left in the canonical form of a path. -/
theorem notMem_of_normalize {path result : String} (normal : normalize path = .ok result) :
    '\\' ∉ result.toList := by
  intro member
  rw [← joinWith_splitOn '/' result.toList] at member
  rcases mem_joinWith member with isSlash | ⟨segment, isSegment, inSegment⟩
  · exact absurd isSlash (by decide)
  · have isWritten := ((segments_of_normalize normal).2 segment isSegment).2
    have inText := mem_joinWith_of_mem '/' isWritten inSegment
    rw [segmentsOf, joinWith_splitOn] at inText
    exact mem_clean (List.dropWhile_subset _ inText) rfl

/-- A path that is clean and leads down is canonical. -/
theorem normalize_of_plain {path : String} (isClean : clean path = path.toList)
    (plain : ∀ segment ∈ splitOn '/' path.toList, IsPlain segment) : normalize path = .ok path := by
  have inside : (clean path).dropWhile (· = '/') = path.toList := by
    rw [isClean]
    cases isText : path.toList with
    | nil => rfl
    | cons char rest =>
        rw [List.dropWhile_cons_of_neg]
        simp only [decide_eq_true_eq]
        rintro rfl
        rw [isText, splitOn, if_pos rfl] at plain
        exact absurd rfl (plain [] List.mem_cons_self).1
  have nonempty : clean path ≠ [] := by
    intro isEmpty
    rw [isClean] at isEmpty
    rw [isEmpty] at plain
    exact absurd rfl (plain [] List.mem_cons_self).1
  obtain ⟨first, rest, isSplit⟩ := List.exists_cons_of_ne_nil (splitOn_ne_nil '/' path.toList)
  rw [isSplit] at plain
  refine normalize_eq_ok.2 ⟨nonempty, first, rest, ?_, (plain first List.mem_cons_self).2.2, ?_⟩
  · unfold reduceSegments
    rw [segmentsOf, inside, isSplit, foldl_stackSegment_of_plain plain]
    simp
  · rw [← isSplit, joinWith_splitOn, String.ofList_toList]

theorem slashed_of_notMem {chars : List Char} (notMem : '\\' ∉ chars) :
    (chars.map fun char => if char = '\\' then '/' else char) = chars := by
  induction chars with
  | nil => rfl
  | cons char rest inductionHypothesis =>
      simp only [List.mem_cons, not_or] at notMem
      rw [List.map_cons, if_neg (Ne.symm notMem.1), inductionHypothesis notMem.2]

/-- Nothing is cleaned away from a canonical path: it would be shorter then. -/
theorem clean_of_canonical {path : String} (canonical : normalize path = .ok path) :
    clean path = path.toList := by
  have whole := length_joinWith '/' (splitOn_ne_nil '/' path.toList)
  have written := length_joinWith '/' (splitOn_ne_nil '/' ((clean path).dropWhile (· = '/')))
  have kept := room_foldl_stackSegment (segmentsOf path) []
  have reduced := (segments_of_normalize canonical).1
  have shorter := (List.dropWhile_suffix (l := clean path) (· = '/')).length_le
  have inText : clean path <:+: path.toList := by
    rw [clean, slashed_of_notMem (notMem_of_normalize canonical)]
    apply infix_strip
  rw [joinWith_splitOn] at whole written
  rw [← reduced, reduceSegments, room_reverse] at whole
  rw [← segmentsOf] at written
  have empty : room [] = 0 := rfl
  apply inText.eq_of_length_le
  omega

/-- A path is its own canonical form if it is clean and leads down. -/
theorem normalize_eq_self_iff {path : String} :
    normalize path = .ok path ↔
      clean path = path.toList ∧ ∀ segment ∈ splitOn '/' path.toList, IsPlain segment := by
  constructor
  · intro canonical
    exact ⟨clean_of_canonical canonical,
      fun segment member => ((segments_of_normalize canonical).2 segment member).1⟩
  · rintro ⟨isClean, plain⟩
    exact normalize_of_plain isClean plain

/-- A canonical form is its own canonical form if no blank stands at its ends. -/
theorem normalize_again_iff {path place : String} (normal : normalize path = .ok place) :
    normalize place = .ok place ↔ strip place.toList = place.toList := by
  have isClean : clean place = strip place.toList := by
    rw [clean, slashed_of_notMem (notMem_of_normalize normal)]
  rw [normalize_eq_self_iff, isClean]
  apply and_iff_left
  intro segment member
  exact ((segments_of_normalize normal).2 segment member).1

/-- A path that is written without blanks at the ends of its segments has a canonical form that stays as it is. -/
theorem normalize_again_of_strip {path place : String} (normal : normalize path = .ok place)
    (stripped : ∀ segment ∈ segmentsOf path, strip segment = segment) : normalize place = .ok place := by
  have parts := (segments_of_normalize normal).2
  have ends : ∀ segment ∈ splitOn '/' place.toList, strip segment = segment := by
    intro segment member
    exact stripped segment (parts segment member).2
  rw [normalize_again_iff normal, ← joinWith_splitOn '/' place.toList,
    strip_joinWith_iff '/' fun segment member => (parts segment member).1.1]
  simp only [Option.mem_bind_iff]
  constructor
  · rintro char ⟨segment, isFirst, isHead⟩
    exact (strip_eq_self_iff.1 (ends segment (List.mem_of_head? isFirst))).1 char isHead
  · rintro char ⟨segment, isFinal, isLast⟩
    exact (strip_eq_self_iff.1 (ends segment (List.mem_of_getLast? isFinal))).2 char isLast

/-- What is refused is refused as a wrong value. -/
theorem kindName_of_normalize {path : String} {cause : Mishap} (refused : normalize path = .error cause) :
    cause.kindName = "ValueError" := by
  unfold normalize at refused
  dsimp only at refused
  split at refused
  · cases refused
    rfl
  · split at refused
    · cases refused
      rfl
    · split at refused
      · cases refused
        rfl
      · cases refused

/-! ## Extensions -/

def isLetter (char : Char) : Bool :=
  ('A' ≤ char && char ≤ 'Z') || ('a' ≤ char && char ≤ 'z')

theorem isBlank_of_isLetter {char : Char} (letter : isLetter char = true) : isBlank char = false := by
  simp only [isLetter, Bool.or_eq_true, Bool.and_eq_true, decide_eq_true_eq, Char.le_def,
    UInt32.le_iff_toNat_le, Char.reduceVal, UInt32.reduceToNat, Char.toNat_val] at letter
  simp [isBlank, blanks, Ranges.has]
  omega

/-- A point with letters behind it. -/
def IsExtension (extension : String) : Prop :=
  ∃ letters, extension.toList = '.' :: letters ∧ ∀ char ∈ letters, isLetter char = true

theorem isExtension_html : IsExtension ".html" :=
  ⟨['h', 't', 'm', 'l'], by decide, List.all_eq_true.1 (by decide)⟩

theorem IsExtension.notMem {extension : String} (isExtension : IsExtension extension) {char : Char}
    (notPoint : char ≠ '.') (notLetter : isLetter char = false) : char ∉ extension.toList := by
  obtain ⟨letters, isText, areLetters⟩ := isExtension
  rw [isText]
  intro member
  rcases List.mem_cons.1 member with isPoint | among
  · exact notPoint isPoint
  · rw [areLetters char among] at notLetter
    cases notLetter

theorem IsExtension.notBlank {extension : String} (isExtension : IsExtension extension) :
    ∀ char ∈ extension.toList, isBlank char = false := by
  obtain ⟨letters, isText, areLetters⟩ := isExtension
  rw [isText]
  intro char member
  rcases List.mem_cons.1 member with rfl | among
  · decide
  · exact isBlank_of_isLetter (areLetters char among)

/-- A segment that leads down leads down with an extension behind it: it gets longer than two dots, unless it is
one character, and then that is not a dot. -/
theorem IsPlain.append {segment : List Char} (plain : IsPlain segment) {extension : String}
    (isExtension : IsExtension extension) : IsPlain (segment ++ extension.toList) := by
  obtain ⟨nonempty, notCurrent, notParent⟩ := plain
  obtain ⟨letters, isText, -⟩ := isExtension
  obtain ⟨first, rest, rfl⟩ := List.exists_cons_of_ne_nil nonempty
  rw [isText]
  refine ⟨by simp, by simp [current], ?_⟩
  intro climbs
  cases rest with
  | nil =>
      simp only [parent, List.cons_append, List.nil_append, List.cons.injEq] at climbs
      exact notCurrent (by rw [climbs.1]; rfl)
  | cons second rest => simp [parent] at climbs

/-- A canonical path is still canonical with an extension behind it. -/
theorem normalize_append {path extension : String} (canonical : normalize path = .ok path)
    (isExtension : IsExtension extension) : normalize (path ++ extension) = .ok (path ++ extension) := by
  obtain ⟨isClean, plain⟩ := normalize_eq_self_iff.1 canonical
  have nonempty : path.toList ≠ [] := by
    rw [← isClean]
    exact (normalize_eq_ok.1 canonical).1
  have kept : path.toList.map (fun char => if char = '\\' then '/' else char) = path.toList :=
    slashed_of_notMem (notMem_of_normalize canonical)
  have kept' : extension.toList.map (fun char => if char = '\\' then '/' else char) = extension.toList :=
    slashed_of_notMem (isExtension.notMem (by decide) (by decide))
  apply normalize_of_plain
  · unfold clean at isClean ⊢
    rw [kept] at isClean
    rw [String.toList_append, List.map_append, kept, kept']
    exact strip_append isClean nonempty isExtension.notBlank
  · have noSlash : '/' ∉ extension.toList := isExtension.notMem (by decide) (by decide)
    obtain ⟨front, last, isSplit, isSplit'⟩ := splitOn_append noSlash path.toList
    rw [isSplit] at plain
    rw [String.toList_append, isSplit']
    intro segment member
    rcases List.mem_append.1 member with inFront | isLast
    · exact plain segment (List.mem_append_left [last] inFront)
    · rw [List.mem_singleton.1 isLast]
      exact (plain last (by simp)).append isExtension

/-! ## Names that are accepted with an extension -/

/-- A segment leads down if it does not end with a dot. -/
theorem isPlain_of_getLast? {segment : List Char} {char : Char} (isLast : segment.getLast? = some char)
    (notPoint : char ≠ '.') : IsPlain segment := by
  refine ⟨?_, ?_, ?_⟩
  all_goals
    rintro rfl
    simp [current, parent] at isLast
  · exact notPoint isLast.symm
  · exact notPoint isLast.symm

theorem IsExtension.getLast? {extension : String} (isExtension : IsExtension extension)
    (hasLetter : extension ≠ ".") : ∃ char, extension.toList.getLast? = some char ∧ char ≠ '.' := by
  obtain ⟨letters, isText, areLetters⟩ := isExtension
  cases isLast : letters.getLast? with
  | none =>
      rw [List.getLast?_eq_none_iff.1 isLast] at isText
      exact absurd (String.toList_injective isText) hasLetter
  | some letter =>
      refine ⟨letter, by rw [isText, List.getLast?_cons, isLast]; rfl, ?_⟩
      rintro rfl
      exact absurd (areLetters '.' (List.mem_of_getLast? isLast)) (by decide)

/-- Two dots at the bottom of a stack stay there. -/
theorem getLast?_stackSegment {stack : List (List Char)} (climbs : stack.getLast? = some parent)
    (segment : List Char) : (stackSegment stack segment).getLast? = some parent := by
  unfold stackSegment
  split
  · exact climbs
  · split
    · match stack with
      | [top] =>
          have isParent : top = parent := by simpa using climbs
          simp [isParent]
      | top :: next :: below =>
          rw [List.getLast?_cons_cons] at climbs
          dsimp only
          split
          · simpa using climbs
          · exact climbs
    · rw [List.getLast?_cons, climbs]
      rfl

/-- A path is accepted if something is left of its segments and does not climb out. -/
theorem isOk_normalize_iff {path : String} :
    (normalize path).isOk = true ↔
      ∃ bottom, ((segmentsOf path).foldl stackSegment []).getLast? = some bottom ∧ bottom ≠ parent := by
  rw [← List.head?_reverse, ← reduceSegments]
  constructor
  · intro accepted
    obtain ⟨place, normal⟩ := exists_of_isOk accepted
    obtain ⟨-, first, rest, reduced, stays, -⟩ := normalize_eq_ok.1 normal
    exact ⟨first, by rw [reduced]; rfl, stays⟩
  · rintro ⟨first, isFirst, stays⟩
    obtain ⟨rest, reduced⟩ := List.head?_eq_some_iff.1 isFirst
    have nonempty : clean path ≠ [] := by
      intro isEmpty
      simp [segmentsOf, isEmpty, splitOn, reduceSegments, stackSegment] at reduced
    rw [normalize_eq_ok.2 ⟨nonempty, first, rest, reduced, stays, rfl⟩]
    rfl

/-- Cleaning leaves an extension where it is, and the blanks in front of it. -/
theorem clean_append {path extension : String} (nonempty : clean path ≠ []) (isExtension : IsExtension extension) :
    ∃ blank, (∀ char ∈ blank, isBlank char = true) ∧
      clean (path ++ extension) = clean path ++ (blank ++ extension.toList) := by
  have kept : extension.toList.map (fun char => if char = '\\' then '/' else char) = extension.toList :=
    slashed_of_notMem (isExtension.notMem (by decide) (by decide))
  unfold clean at nonempty ⊢
  rw [String.toList_append, List.map_append, kept]
  generalize path.toList.map (fun char => if char = '\\' then '/' else char) = chars at nonempty ⊢
  have some : ¬ (chars.dropWhile isBlank).isEmpty = true := by
    intro isEmpty
    rw [strip, stripLeft, List.isEmpty_iff.1 isEmpty] at nonempty
    exact nonempty rfl
  obtain ⟨blank, areBlank, whole⟩ := stripRight_append_blanks (stripLeft chars)
  refine ⟨blank, areBlank, ?_⟩
  rw [strip, stripLeft, List.dropWhile_append, if_neg some, ← List.append_assoc, strip, whole]
  apply stripRight_eq_self_iff.2
  intro char isLast
  apply isExtension.notBlank
  apply List.mem_of_getLast?
  obtain ⟨letters, isText, -⟩ := isExtension
  rw [isText] at isLast ⊢
  simpa [List.getLast?_append] using isLast

/-- What is accepted is accepted with an extension that has a letter behind it: its last segment leads down then,
and so it takes nothing away from what was there. -/
theorem isOk_normalize_append {path extension : String} (isExtension : IsExtension extension)
    (hasLetter : extension ≠ ".") (accepted : (normalize path).isOk = true) :
    (normalize (path ++ extension)).isOk = true := by
  rw [isOk_normalize_iff] at accepted ⊢
  obtain ⟨bottom, isBottom, stays⟩ := accepted
  have inside : (clean path).dropWhile (· = '/') ≠ [] := by
    intro isEmpty
    simp [segmentsOf, isEmpty, splitOn, stackSegment] at isBottom
  have nonempty : clean path ≠ [] := by
    rintro isEmpty
    simp [isEmpty] at inside
  obtain ⟨blank, areBlank, isClean⟩ := clean_append nonempty isExtension
  have noSlash : '/' ∉ blank ++ extension.toList := by
    rw [List.mem_append, not_or]
    refine ⟨?_, isExtension.notMem (by decide) (by decide)⟩
    intro member
    exact absurd (areBlank '/' member) (by decide)
  obtain ⟨front, last, isSplit, isSplit'⟩ := splitOn_append noSlash ((clean path).dropWhile (· = '/'))
  have segments : segmentsOf (path ++ extension) = front ++ [last ++ (blank ++ extension.toList)] := by
    rw [segmentsOf, isClean, List.dropWhile_append, if_neg (by simpa using inside), isSplit']
  have plain : IsPlain (last ++ (blank ++ extension.toList)) := by
    obtain ⟨letter, isLast, notPoint⟩ := isExtension.getLast? hasLetter
    apply isPlain_of_getLast? _ notPoint
    simp [List.getLast?_append, isLast]
  rw [segmentsOf, isSplit, List.foldl_append] at isBottom
  rw [segments, List.foldl_append]
  simp only [List.foldl_cons, List.foldl_nil] at isBottom ⊢
  rw [stackSegment_of_plain plain, List.getLast?_cons]
  refine ⟨_, rfl, ?_⟩
  cases below : (front.foldl stackSegment []).getLast? with
  | none => exact plain.2.2
  | some lowest =>
      intro climbs
      rw [show lowest = parent from climbs] at below
      rw [getLast?_stackSegment below] at isBottom
      exact stays (Option.some.inj isBottom).symm

end Folio.Path
