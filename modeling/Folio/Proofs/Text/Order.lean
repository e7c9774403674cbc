import Folio.Text.Order

/-!
Contract: texts in ascending order.

Owns: that sorting loses no text and adds none.
-/

namespace Folio.Text

theorem mem_insertText {text other : String} {texts : List String} :
    text ∈ insertText other texts ↔ text = other ∨ text ∈ texts := by
  induction texts with
  | nil => simp [insertText]
  | cons first texts inductionHypothesis =>
      rw [insertText]
      split
      · simp only [List.mem_cons, inductionHypothesis]
        exact or_left_comm
      · simp only [List.mem_cons]

theorem mem_sortTexts {text : String} {texts : List String} :
    text ∈ sortTexts texts ↔ text ∈ texts := by
  induction texts with
  | nil => rfl
  | cons first texts inductionHypothesis =>
      have unfolded : sortTexts (first :: texts) = insertText first (sortTexts texts) := rfl
      rw [unfolded, mem_insertText, inductionHypothesis, List.mem_cons]

end Folio.Text
