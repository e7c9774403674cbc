import Folio.Text.Blank
import Folio.Text.Digit
import Folio.Text.Identifier
import Folio.Text.Quoted
import Mathlib.Data.List.TakeWhile

/-!
Contract: tables of characters without a character in common.

Owns: the test that two tables are apart, in one pass over both; decimal digits as a table; and that no blank is
among the digits or the characters of names, and no digit among the characters that start a name.

Does not own: what a name means.
-/

namespace Folio.Text

/-! ## Apart -/

namespace Ranges

/-- The ranges stand in ascending order, and none starts below a bound. -/
def ascendFrom (bound : Nat) : Ranges → Bool
  | [] => true
  | range :: ranges => bound ≤ range.1 && ascendFrom range.1 ranges

/-- No range of one table meets a range of the other. Of the second table only the first range that does not end
in front of a range of the first one is compared with it. -/
def apart : Ranges → Ranges → Bool
  | [], _ => true
  | range :: first, second =>
      let later := second.dropWhile fun other => other.2 < range.1
      later.head?.all (fun other => range.2 < other.1) && apart first later

variable {bound bound' : Nat} {ranges first second : Ranges}

theorem ascendFrom_cons {range : Nat × Nat} :
    ascendFrom bound (range :: ranges) = true ↔ bound ≤ range.1 ∧ ascendFrom range.1 ranges = true := by
  rw [ascendFrom, Bool.and_eq_true, decide_eq_true_eq]

theorem ascendFrom_le (ascend : ranges.ascendFrom bound = true) : ∀ range ∈ ranges, bound ≤ range.1 := by
  induction ranges generalizing bound with
  | nil => nofun
  | cons range ranges inductionHypothesis =>
      obtain ⟨low, ascend⟩ := ascendFrom_cons.1 ascend
      exact List.forall_mem_cons.2 ⟨low, fun next member => low.trans (inductionHypothesis ascend next member)⟩

theorem ascendFrom_dropWhile (ascend : ranges.ascendFrom bound = true) (ends : Nat × Nat → Bool) :
    ascendFrom bound (ranges.dropWhile ends) = true := by
  induction ranges generalizing bound with
  | nil => rfl
  | cons range ranges inductionHypothesis =>
      obtain ⟨low, ascend'⟩ := ascendFrom_cons.1 ascend
      rw [List.dropWhile_cons]
      split
      · have later := inductionHypothesis ascend'
        cases isLater : ranges.dropWhile ends with
        | nil => rfl
        | cons next others =>
            rw [isLater, ascendFrom_cons] at later
            exact ascendFrom_cons.2 ⟨low.trans later.1, later.2⟩
      · exact ascend

theorem separate_of_apart (firstAscend : first.ascendFrom bound = true)
    (secondAscend : second.ascendFrom bound' = true) (areApart : first.apart second = true) :
    ∀ range ∈ first, ∀ other ∈ second, range.2 < other.1 ∨ other.2 < range.1 := by
  induction first generalizing second bound with
  | nil => nofun
  | cons range first inductionHypothesis =>
      obtain ⟨-, firstAscend⟩ := ascendFrom_cons.1 firstAscend
      rw [apart, Bool.and_eq_true] at areApart
      obtain ⟨nearestApart, laterApart⟩ := areApart
      have laterAscend := ascendFrom_dropWhile secondAscend fun other => other.2 < range.1
      intro next isNext other isOther
      rw [← @List.takeWhile_append_dropWhile _ (fun other => other.2 < range.1) second] at isOther
      rcases List.mem_append.1 isOther with isOther | isOther
      · -- What ends in front of the first range ends in front of all of them.
        have ends := List.mem_takeWhile_imp isOther
        rw [decide_eq_true_eq] at ends
        rcases List.mem_cons.1 isNext with isFirst | isNext
        · exact .inr (isFirst ▸ ends)
        · exact .inr (ends.trans_le (ascendFrom_le firstAscend next isNext))
      · rcases List.mem_cons.1 isNext with isFirst | isNext
        · generalize (second.dropWhile fun other => other.2 < range.1) = later
            at nearestApart laterAscend isOther
          cases later with
          | nil => cases isOther
          | cons nearest later =>
              obtain ⟨-, ascend⟩ := ascendFrom_cons.1 laterAscend
              have ends : range.2 < nearest.1 := of_decide_eq_true nearestApart
              rw [isFirst]
              rcases List.mem_cons.1 isOther with isNearest | isOther
              · exact .inl (isNearest ▸ ends)
              · exact .inl (ends.trans_le (ascendFrom_le ascend other isOther))
        · exact inductionHypothesis firstAscend laterAscend laterApart next isNext other isOther

theorem has_iff {ranges : Ranges} {char : Char} :
    ranges.has char = true ↔ ∃ range ∈ ranges, range.1 ≤ char.toNat ∧ char.toNat ≤ range.2 := by
  simp [Ranges.has]

theorem not_has_of_apart (ascend : first.ascendFrom 0 = true ∧ second.ascendFrom 0 = true)
    (areApart : first.apart second = true) {char : Char} (inFirst : first.has char = true) :
    second.has char = false := by
  apply eq_false_of_ne_true
  intro inSecond
  obtain ⟨range, isRange, low, high⟩ := has_iff.1 inFirst
  obtain ⟨other, isOther, otherLow, otherHigh⟩ := has_iff.1 inSecond
  have separate := separate_of_apart ascend.1 ascend.2 areApart range isRange other isOther
  omega

end Ranges

/-! ## Digits -/

/-- Code points of decimal digits. -/
def decimalDigits : Ranges :=
  digitZeros.map fun start => (start, start + 9)

theorem isDigit_iff {char : Char} :
    isDigit char = true ↔ ∃ start ∈ digitZeros, start ≤ char.toNat ∧ char.toNat < start + 10 := by
  simp [isDigit, digitValue?, List.findSome?_isSome_iff]

theorem decimalDigits_has {char : Char} (digit : isDigit char = true) : decimalDigits.has char = true := by
  obtain ⟨start, isZero, low, high⟩ := isDigit_iff.1 digit
  exact Ranges.has_iff.2 ⟨(start, start + 9), List.mem_map_of_mem isZero, low, Nat.le_of_lt_succ high⟩

theorem isBlank_of_isDigit {char : Char} (digit : isDigit char = true) : isBlank char = false :=
  Ranges.not_has_of_apart (by decide +kernel) (by decide +kernel) (decimalDigits_has digit)

/-! ## Names -/

theorem isDigit_of_nameStart {char : Char} (starts : nameStarts.has char = true) : isDigit char = false := by
  apply eq_false_of_ne_true
  intro digit
  have outside : nameStarts.has char = false :=
    Ranges.not_has_of_apart (by decide +kernel) (by decide +kernel) (decimalDigits_has digit)
  rw [starts] at outside
  cases outside

theorem isNameFollower_of_start {char : Char} (starts : isNameStart char = true) : isNameFollower char = true := by
  rcases Bool.or_eq_true_iff.1 starts with isLine | starts
  · rw [eq_of_beq isLine]
    decide +kernel
  · rw [isNameFollower, starts, Bool.true_or]

theorem isBlank_of_isNameFollower {char : Char} (follows : isNameFollower char = true) : isBlank char = false := by
  rcases Bool.or_eq_true_iff.1 follows with starts | follows
  · exact Ranges.not_has_of_apart (by decide +kernel) (by decide +kernel) starts
  · exact Ranges.not_has_of_apart (by decide +kernel) (by decide +kernel) follows

theorem isNameFollower_of_isIdentifier {text : String} (accepted : isIdentifier text = true) :
    ∀ char ∈ text.toList, isNameFollower char = true := by
  unfold isIdentifier at accepted
  split at accepted
  · cases accepted
  · rename_i first rest isText
    rw [isText]
    simp only [Bool.and_eq_true, List.all_eq_true] at accepted
    exact List.forall_mem_cons.2 ⟨isNameFollower_of_start accepted.1, accepted.2⟩

end Folio.Text
