import Folio.Proofs.Text.Split
import Folio.Text.Blank
import Mathlib.Data.List.Basic
import Mathlib.Data.List.TakeWhile

/-!
Contract: texts without blanks at their ends.

Owns: that stripping leaves a part of a text; which texts it leaves as they are; and that joined parts are left as
they are where the first and the last of them are.
-/

namespace Folio.Text

theorem infix_strip (chars : List Char) : strip chars <:+: chars := by
  have behind : stripLeft chars <:+ chars := List.dropWhile_suffix isBlank
  have front : strip chars <+: stripLeft chars := by
    apply List.reverse_suffix.1
    rw [strip, stripRight, List.reverse_reverse]
    apply List.dropWhile_suffix
  exact front.isInfix.trans behind.isInfix

theorem stripLeft_eq_self_iff {chars : List Char} :
    stripLeft chars = chars ↔ ∀ char ∈ chars.head?, isBlank char = false := by
  cases chars with
  | nil => simp [stripLeft]
  | cons char rest => simp [stripLeft, List.dropWhile_eq_self_iff]

theorem stripRight_eq_self_iff {chars : List Char} :
    stripRight chars = chars ↔ ∀ char ∈ chars.getLast?, isBlank char = false := by
  rw [stripRight, List.reverse_eq_iff, ← stripLeft, stripLeft_eq_self_iff, List.head?_reverse]

/-- Stripping leaves a text as it is if no blank stands at its ends. -/
theorem strip_eq_self_iff {chars : List Char} :
    strip chars = chars ↔
      (∀ char ∈ chars.head?, isBlank char = false) ∧ ∀ char ∈ chars.getLast?, isBlank char = false := by
  rw [← stripLeft_eq_self_iff, ← stripRight_eq_self_iff]
  constructor
  · intro stripped
    have keptLeft : stripLeft chars = chars := by
      have behind : stripLeft chars <:+ chars := List.dropWhile_suffix isBlank
      have shorter : (strip chars).length ≤ (stripLeft chars).length := by
        have dropped := (List.dropWhile_suffix isBlank (l := (stripLeft chars).reverse)).length_le
        simpa [strip, stripRight] using dropped
      apply behind.eq_of_length_le
      rwa [stripped] at shorter
    rw [strip, keptLeft] at stripped
    exact ⟨keptLeft, stripped⟩
  · intro kept
    rw [strip, kept.1, kept.2]

/-- A text without blanks at its ends has none there with something behind it that is not blank. -/
theorem strip_append {chars suffix : List Char} (stripped : strip chars = chars) (nonempty : chars ≠ [])
    (notBlank : ∀ char ∈ suffix, isBlank char = false) : strip (chars ++ suffix) = chars ++ suffix := by
  rw [strip_eq_self_iff] at stripped ⊢
  constructor
  · rw [List.head?_append_of_ne_nil _ nonempty]
    exact stripped.1
  · intro char isLast
    rw [List.getLast?_append] at isLast
    cases behind : suffix.getLast? with
    | none =>
        rw [behind, Option.none_or] at isLast
        exact stripped.2 char isLast
    | some last =>
        rw [behind, Option.some_or] at isLast
        apply notBlank
        apply List.mem_of_getLast?
        rw [behind]
        exact isLast

/-- What stripping takes away behind a text is blank. -/
theorem stripRight_append_blanks (chars : List Char) :
    ∃ blank, (∀ char ∈ blank, isBlank char = true) ∧ stripRight chars ++ blank = chars := by
  refine ⟨(chars.reverse.takeWhile isBlank).reverse, ?_, ?_⟩
  · intro char member
    exact List.mem_takeWhile_imp (List.mem_reverse.1 member)
  · rw [stripRight, ← List.reverse_append, List.takeWhile_append_dropWhile, List.reverse_reverse]

/-! ## Joined parts -/

theorem head?_joinWith (separator : Char) :
    ∀ parts : List (List Char), (∀ part ∈ parts, part ≠ []) →
      (joinWith separator parts).head? = parts.head?.bind List.head?
  | [], _ => rfl
  | [_], _ => rfl
  | part :: next :: parts, nonempty => by
      rw [joinWith_cons _ _ (List.cons_ne_nil next parts),
        List.head?_append_of_ne_nil _ (nonempty part List.mem_cons_self)]
      rfl

theorem getLast?_joinWith (separator : Char) :
    ∀ parts : List (List Char), (∀ part ∈ parts, part ≠ []) →
      (joinWith separator parts).getLast? = parts.getLast?.bind List.getLast?
  | [], _ => rfl
  | [_], _ => rfl
  | part :: next :: parts, nonempty => by
      have later := getLast?_joinWith separator (next :: parts)
        fun other member => nonempty other (List.mem_cons_of_mem part member)
      have isLast : ((next :: parts).getLast?.bind List.getLast?) ≠ none := by
        rw [← later, ne_eq, List.getLast?_eq_none_iff, ← List.head?_eq_none_iff, head?_joinWith]
        · simpa using nonempty next (by simp)
        · exact fun other member => nonempty other (List.mem_cons_of_mem part member)
      rw [joinWith_cons _ _ (List.cons_ne_nil next parts), List.getLast?_append, List.getLast?_cons, later,
        List.getLast?_cons_cons]
      obtain ⟨last, found⟩ := Option.ne_none_iff_exists'.1 isLast
      rw [found]
      rfl

/-- Stripping leaves joined parts as they are if no blank stands in front of the first and behind the last. -/
theorem strip_joinWith_iff (separator : Char) {parts : List (List Char)} (nonempty : ∀ part ∈ parts, part ≠ []) :
    strip (joinWith separator parts) = joinWith separator parts ↔
      (∀ char ∈ parts.head?.bind List.head?, isBlank char = false) ∧
        ∀ char ∈ parts.getLast?.bind List.getLast?, isBlank char = false := by
  rw [strip_eq_self_iff, head?_joinWith separator parts nonempty, getLast?_joinWith separator parts nonempty]

end Folio.Text
