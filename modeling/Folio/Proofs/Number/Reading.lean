import Folio.Number.Binary64
import Folio.Number.Numeral
import Folio.Proofs.Text.Ranges

/-!
Contract: numerals that denote a number.

Owns: that digits of every script are none of the other characters of a numeral; the digits that are read from
a row of them; and that a row of digits, or two of them around a point, with a minus or without, is read as a
number, where a whole number needs to be within the limit on its digits.

Does not own: numerals with blanks and low lines, and which number a row with a point denotes.
-/

namespace Folio.Number

open Folio.Text

/-! ## Digits of every script -/

theorem isNumeralBlank_of_isDigit {char : Char} (digit : isDigit char = true) : isNumeralBlank char = false := by
  simp [isNumeralBlank, isBlank_of_isDigit digit]

theorem ne_of_isDigit {char : Char} (digit : isDigit char = true) :
    char ≠ '-' ∧ char ≠ '+' ∧ char ≠ '_' ∧ char ≠ '.' := by
  refine ⟨?_, ?_, ?_, ?_⟩
  all_goals
    rintro rfl
    exact absurd digit (by decide)

/-- A row of digits, of which there is at least one. -/
structure IsDigitRow (row : List Char) : Prop where
  digits : ∀ char ∈ row, isDigit char = true
  nonempty : row ≠ []

theorem isDigitRow_iff {row : List Char} : IsDigitRow row ↔ row.all isDigit = true ∧ row ≠ [] := by
  rw [List.all_eq_true]
  exact ⟨fun isRow => ⟨isRow.digits, isRow.nonempty⟩, fun isRow => ⟨isRow.1, isRow.2⟩⟩

instance decidableIsDigitRow (row : List Char) : Decidable (IsDigitRow row) :=
  decidable_of_iff _ isDigitRow_iff.symm

theorem IsDigitRow.starts {row : List Char} (isRow : IsDigitRow row) : ∃ digit ∈ row.head?, isDigit digit = true := by
  obtain ⟨char, more, rfl⟩ := List.exists_cons_of_ne_nil isRow.nonempty
  exact ⟨char, rfl, isRow.digits char List.mem_cons_self⟩

theorem IsDigitRow.values_ne_nil {row : List Char} (isRow : IsDigitRow row) :
    row.filterMap digitValue? ≠ [] := by
  obtain ⟨char, more, rfl⟩ := List.exists_cons_of_ne_nil isRow.nonempty
  obtain ⟨value, isValue⟩ := Option.isSome_iff_exists.1 (isRow.digits char List.mem_cons_self)
  simp [isValue]

/-- Digits are read up to where they stop, which is not at a low line. -/
theorem digitRun_append {row behind : List Char} (digits : ∀ char ∈ row, isDigit char = true)
    (stops : ∀ char ∈ behind.head?, isDigit char = false ∧ char ≠ '_') :
    digitRun (row ++ behind) = (row.filterMap digitValue?, behind) := by
  induction row with
  | nil =>
      cases behind with
      | nil => rfl
      | cons char behind =>
          have noValue : digitValue? char = none := by
            simpa [isDigit] using (stops char rfl).1
          cases behind <;> simp [digitRun, noValue]
  | cons char row inductionHypothesis =>
      obtain ⟨value, isValue⟩ := Option.isSome_iff_exists.1 (digits char List.mem_cons_self)
      have later := inductionHypothesis fun other member => digits other (List.mem_cons_of_mem char member)
      rw [List.cons_append, List.filterMap_cons, isValue]
      cases isBehind : row ++ behind with
      | nil =>
          obtain ⟨rfl, rfl⟩ := List.append_eq_nil_iff.1 isBehind
          simp [digitRun, isValue]
      | cons next rest =>
          have noLine : next ≠ '_' := by
            cases row with
            | nil => exact (stops next (by simp_all)).2
            | cons first row =>
                cases isBehind
                exact (ne_of_isDigit (digits _ (by simp))).2.2.1
          rw [isBehind] at later
          simp [digitRun, isValue, noLine, later]

/-! ## Numerals -/

/-- Nothing is blank at the ends of a row whose ends are not blank. -/
theorem trimNumeral_of_ends {chars : List Char} (first : chars.head?.all fun char => !isNumeralBlank char)
    (last : chars.getLast?.all fun char => !isNumeralBlank char) : trimNumeral chars = chars := by
  have untouched : ∀ row : List Char, (row.head?.all fun char => !isNumeralBlank char) →
      row.dropWhile isNumeralBlank = row := by
    intro row firstOfRow
    cases row with
    | nil => rfl
    | cons char row => exact List.dropWhile_cons_of_neg (by simpa using firstOfRow)
  unfold trimNumeral
  rw [untouched chars first, untouched chars.reverse, List.reverse_reverse]
  rwa [List.head?_reverse]

/-- A numeral with a minus or without. -/
def withMinus (negative : Bool) (chars : List Char) : List Char :=
  if negative then '-' :: chars else chars

/-- What starts with a digit or a point and ends with a digit has no blanks to lose, and no sign of its own. -/
theorem splitSign_withMinus (negative : Bool) {chars : List Char} (nonempty : chars ≠ [])
    (first : ∀ char ∈ chars.head?, isDigit char = true ∨ char = '.')
    (last : ∀ char ∈ chars.getLast?, isDigit char = true) :
    splitSign (trimNumeral (withMinus negative chars)) = (negative, chars) := by
  obtain ⟨char, more, rfl⟩ := List.exists_cons_of_ne_nil nonempty
  have firstFacts : isNumeralBlank char = false ∧ char ≠ '-' ∧ char ≠ '+' := by
    rcases first char rfl with digit | rfl
    · exact ⟨isNumeralBlank_of_isDigit digit, (ne_of_isDigit digit).1, (ne_of_isDigit digit).2.1⟩
    · decide
  have lastNotBlank : ∀ other ∈ (char :: more).getLast?, isNumeralBlank other = false :=
    fun other isLast => isNumeralBlank_of_isDigit (last other isLast)
  have unsigned : splitSign (char :: more) = (false, char :: more) := by
    rw [splitSign]
    · exact fun _ isMinus => firstFacts.2.1 (List.cons.inj isMinus).1
    · exact fun _ isPlus => firstFacts.2.2 (List.cons.inj isPlus).1
  cases negative with
  | false =>
      rw [withMinus, if_neg Bool.false_ne_true, trimNumeral_of_ends, unsigned]
      · simp [firstFacts.1]
      · simpa [Option.all_eq_true] using lastNotBlank
  | true =>
      rw [withMinus, if_pos rfl, trimNumeral_of_ends]
      · rfl
      · rfl
      · simpa [Option.all_eq_true] using lastNotBlank

/-- A row of digits is the numeral of the whole number that they denote, and is refused if it is longer than the
limit. -/
theorem readWhole_row (negative : Bool) {row : List Char} (isRow : IsDigitRow row) :
    readWhole (String.ofList (withMinus negative row)) =
      if digitLimit < row.length then .error (.tooLongToRead row.length)
      else .ok (withSign negative (ofDigitValues (row.filterMap digitValue?))) := by
  have signed := splitSign_withMinus negative isRow.nonempty
    (fun char isFirst => .inl (isRow.digits char (List.mem_of_head? isFirst)))
    (fun char isLast => isRow.digits char (List.mem_of_getLast? isLast))
  have digits : digitRun (row ++ []) = (row.filterMap digitValue?, []) :=
    digitRun_append isRow.digits (by simp)
  have size : (row.filterMap digitValue?).length = row.length :=
    List.filterMap_length_eq_length.2 isRow.digits
  rw [List.append_nil] at digits
  unfold readWhole
  rw [String.toList_ofList, signed]
  dsimp only
  rw [digits, ← size]
  simp [isRow.values_ne_nil]

/-- A row of digits within the limit is read. -/
theorem readWhole_of_row (negative : Bool) {row : List Char} (isRow : IsDigitRow row)
    (short : row.length ≤ digitLimit) :
    readWhole (String.ofList (withMinus negative row)) =
      .ok (withSign negative (ofDigitValues (row.filterMap digitValue?))) := by
  rw [readWhole_row negative isRow, if_neg (Nat.not_lt.2 short)]

/-- Digits around a point, with some behind it, are the numeral of a number. -/
theorem readMagnitude_of_fraction (negative : Bool) {whole row : List Char}
    (digits : ∀ char ∈ whole, isDigit char = true) (isRow : IsDigitRow row) :
    ∃ number, Binary64.readMagnitude negative (whole ++ '.' :: row) = some number := by
  have before : digitRun (whole ++ '.' :: row) = (whole.filterMap digitValue?, '.' :: row) :=
    digitRun_append digits (by simp; decide)
  have after : digitRun (row ++ []) = (row.filterMap digitValue?, []) :=
    digitRun_append isRow.digits (by simp)
  rw [List.append_nil] at after
  unfold Binary64.readMagnitude
  simp [before, after, isRow.values_ne_nil, Binary64.readPower]

theorem read_of_fraction (negative : Bool) {whole row : List Char}
    (digits : ∀ char ∈ whole, isDigit char = true) (isRow : IsDigitRow row) :
    ∃ number, Binary64.read (String.ofList (withMinus negative (whole ++ '.' :: row))) = .ok number := by
  have first : ∀ char ∈ (whole ++ '.' :: row).head?, isDigit char = true ∨ char = '.' := by
    intro char isFirst
    cases whole with
    | nil => exact .inr (Option.some.inj isFirst).symm
    | cons other whole => exact .inl (digits char (by simp_all))
  have last : ∀ char ∈ (whole ++ '.' :: row).getLast?, isDigit char = true := by
    intro char isLast
    obtain ⟨other, more, rfl⟩ := List.exists_cons_of_ne_nil isRow.nonempty
    exact isRow.digits char (List.mem_of_getLast? (by simpa using isLast))
  have signed := splitSign_withMinus negative (by simp) first last
  obtain ⟨number, isNumber⟩ := readMagnitude_of_fraction negative digits isRow
  unfold Binary64.read
  rw [String.toList_ofList, signed]
  dsimp only
  rw [isNumber]
  split
  · exact ⟨_, rfl⟩
  · split
    · exact ⟨_, rfl⟩
    · exact ⟨_, rfl⟩

end Folio.Number
