import Folio.Proofs.Number.Reading
import Mathlib.Algebra.Group.Nat.Defs
import Mathlib.Data.List.Basic
import Mathlib.Data.List.Induction

/-!
Contract: reading a whole number undoes writing it.

Owns: the numeral of a natural number as a row of digits, how large a number of so many digits is, and the round
trip of whole numbers within the limit on their digits.

Does not own: which rows of digits are numerals.
-/

namespace Folio.Number

open Folio.Text

/-! ## Digits -/

/-- The sign of a decimal digit. -/
def digitChar (digit : Nat) : Char :=
  Char.ofNat (48 + digit)

theorem digitChar_facts {digit : Nat} (small : digit < 10) :
    digitValue? (digitChar digit) = some digit ∧ isNumeralBlank (digitChar digit) = false ∧
      digitChar digit ≠ '-' ∧ digitChar digit ≠ '+' ∧ digitChar digit ≠ '_' ∧
        digitChar digit ≠ '.' := by
  have all : ∀ digit : Fin 10,
      digitValue? (digitChar digit) = some digit.val ∧ isNumeralBlank (digitChar digit) = false ∧
        digitChar digit ≠ '-' ∧ digitChar digit ≠ '+' ∧ digitChar digit ≠ '_' ∧
          digitChar digit ≠ '.' := by decide
  exact all ⟨digit, small⟩

/-- A row of digits below ten, of which there is at least one. -/
structure IsDecimal (digits : List Nat) : Prop where
  small : ∀ digit ∈ digits, digit < 10
  nonempty : digits ≠ []

theorem ofDigitValues_concat (digits : List Nat) (digit : Nat) :
    ofDigitValues (digits ++ [digit]) = 10 * ofDigitValues digits + digit := by
  unfold ofDigitValues
  rw [List.foldl_append]
  rfl

theorem digitsOnto_eq (number : Nat) (tail : List Char) :
    ∃ digits, IsDecimal digits ∧ ofDigitValues digits = number ∧
      digitsOnto number tail = digits.map digitChar ++ tail := by
  fun_induction digitsOnto number tail with
  | case1 number tail small =>
      refine ⟨[number], ⟨?_, List.cons_ne_nil _ _⟩, ?_, rfl⟩
      · intro digit member
        rwa [List.mem_singleton.1 member]
      · simp [ofDigitValues]
  | case2 number tail large inductionHypothesis =>
      obtain ⟨digits, decimal, value, isRow⟩ := inductionHypothesis
      refine ⟨digits ++ [number % 10], ⟨?_, by simp⟩, ?_, ?_⟩
      · intro digit member
        rcases List.mem_append.1 member with member | member
        · exact decimal.small digit member
        · rw [List.mem_singleton.1 member]
          exact Nat.mod_lt number (by decide)
      · rw [ofDigitValues_concat, value]
        exact Nat.div_add_mod number 10
      · rw [isRow, List.map_append, List.append_assoc]
        rfl

/-- The digits of a natural number denote it. -/
theorem naturalDigits_eq (number : Nat) :
    ∃ digits, IsDecimal digits ∧ ofDigitValues digits = number ∧
      naturalDigits number = digits.map digitChar := by
  obtain ⟨digits, decimal, value, isRow⟩ := digitsOnto_eq number []
  exact ⟨digits, decimal, value, isRow.trans (List.append_nil _)⟩

theorem ofDigitValues_lt {digits : List Nat} (small : ∀ digit ∈ digits, digit < 10) :
    ofDigitValues digits < 10 ^ digits.length := by
  induction digits using List.reverseRecOn with
  | nil => decide
  | append_singleton digits digit inductionHypothesis =>
      have front := inductionHypothesis fun other member => small other (List.mem_append_left _ member)
      have last := small digit (by simp)
      rw [ofDigitValues_concat, List.length_append, List.length_singleton, Nat.pow_succ]
      omega

/-- A number is smaller than the power of ten that its digits tell. -/
theorem lt_pow_length_naturalDigits (number : Nat) : number < 10 ^ (naturalDigits number).length := by
  obtain ⟨digits, decimal, value, isRow⟩ := naturalDigits_eq number
  rw [isRow, List.length_map, ← value]
  exact ofDigitValues_lt decimal.small

section Decimal

variable {digits : List Nat} (decimal : IsDecimal digits)

include decimal

theorem IsDecimal.isDigitRow : IsDigitRow (digits.map digitChar) where
  digits char member := by
    obtain ⟨digit, isDigit, rfl⟩ := List.mem_map.1 member
    rw [Text.isDigit, (digitChar_facts (decimal.small digit isDigit)).1]
    rfl
  nonempty := by simpa using decimal.nonempty

theorem IsDecimal.values : (digits.map digitChar).filterMap digitValue? = digits := by
  rw [List.filterMap_map]
  calc digits.filterMap (digitValue? ∘ digitChar)
    _ = digits.filterMap some :=
      List.filterMap_congr fun digit member => (digitChar_facts (decimal.small digit member)).1
    _ = digits := List.filterMap_some

end Decimal

/-! ## The round trip -/

/-- Reading a whole number undoes writing it, if its digits are within the limit. -/
theorem readWhole_wholeText {number : Int} {text : String} (written : writeWhole number = .ok text) :
    readWhole text = .ok number := by
  unfold writeWhole at written
  split at written
  · cases written
  rename_i short
  cases written
  cases number with
  | ofNat number =>
      obtain ⟨digits, decimal, rfl, isRow⟩ := naturalDigits_eq number
      have isText : wholeText (.ofNat (ofDigitValues digits)) =
          String.ofList (withMinus false (digits.map digitChar)) := by
        rw [wholeText, wholeDigits, isRow]
        rfl
      rw [Int.natAbs_ofNat', isRow] at short
      rw [isText, readWhole_of_row false decimal.isDigitRow (Nat.not_lt.1 short), decimal.values]
      rfl
  | negSucc number =>
      obtain ⟨digits, decimal, value, isRow⟩ := naturalDigits_eq (number + 1)
      have isText : wholeText (.negSucc number) =
          String.ofList (withMinus true (digits.map digitChar)) := by
        rw [wholeText, wholeDigits, isRow]
        rfl
      rw [Int.natAbs_negSucc, isRow] at short
      rw [isText, readWhole_of_row true decimal.isDigitRow (Nat.not_lt.1 short), decimal.values, value]
      rfl

end Folio.Number
