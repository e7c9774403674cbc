import Folio.Text.Split

/-!
Contract: texts cut at a separator.

Owns: that the parts of a text are never none and hold no separator, that joining them again gives the text, and what
the parts are where the text is known to be made of them.
-/

namespace Folio.Text

theorem splitOn_ne_nil (separator : Char) (chars : List Char) : splitOn separator chars ≠ [] := by
  induction chars with
  | nil => exact List.cons_ne_nil _ _
  | cons char rest inductionHypothesis =>
      rw [splitOn]
      split
      · exact List.cons_ne_nil _ _
      · split
        · exact List.cons_ne_nil _ _
        · exact List.cons_ne_nil _ _

theorem splitOn_cons_ne {separator char : Char} (differs : char ≠ separator) (rest : List Char) :
    ∃ part parts, splitOn separator rest = part :: parts ∧
      splitOn separator (char :: rest) = (char :: part) :: parts := by
  cases isSplit : splitOn separator rest with
  | nil => exact absurd isSplit (splitOn_ne_nil separator rest)
  | cons part parts =>
      refine ⟨part, parts, rfl, ?_⟩
      rw [splitOn, if_neg differs, isSplit]

theorem joinWith_cons {α : Type} (separator : α) (part : List α) {parts : List (List α)}
    (nonempty : parts ≠ []) :
    joinWith separator (part :: parts) = part ++ separator :: joinWith separator parts := by
  cases parts with
  | nil => exact absurd rfl nonempty
  | cons next parts => rfl

theorem joinWith_concat {α : Type} (separator : α) {parts : List (List α)} (nonempty : parts ≠ []) (last : List α) :
    joinWith separator (parts ++ [last]) = joinWith separator parts ++ separator :: last := by
  induction parts with
  | nil => exact absurd rfl nonempty
  | cons part parts inductionHypothesis =>
      cases parts with
      | nil => rfl
      | cons next parts =>
          rw [joinWith_cons _ _ (List.cons_ne_nil next parts), List.cons_append, joinWith_cons _ _ (by simp),
            inductionHypothesis (List.cons_ne_nil next parts)]
          simp

theorem joinWith_splitOn (separator : Char) (chars : List Char) :
    joinWith separator (splitOn separator chars) = chars := by
  induction chars with
  | nil => rfl
  | cons char rest inductionHypothesis =>
      by_cases same : char = separator
      · subst same
        rw [splitOn, if_pos rfl, joinWith_cons _ _ (splitOn_ne_nil char rest), inductionHypothesis]
        rfl
      · obtain ⟨part, parts, isSplit, isSplit'⟩ := splitOn_cons_ne same rest
        rw [isSplit] at inductionHypothesis
        rw [isSplit', ← inductionHypothesis]
        cases parts <;> rfl

theorem notMem_of_mem_splitOn {separator : Char} {chars part : List Char}
    (member : part ∈ splitOn separator chars) : separator ∉ part := by
  induction chars generalizing part with
  | nil => simp_all [splitOn]
  | cons char rest inductionHypothesis =>
      by_cases same : char = separator
      · rw [splitOn, if_pos same] at member
        rcases List.mem_cons.1 member with rfl | member
        · simp
        · exact inductionHypothesis member
      · obtain ⟨first, parts, isSplit, isSplit'⟩ := splitOn_cons_ne same rest
        rw [isSplit] at inductionHypothesis
        rw [isSplit'] at member
        rcases List.mem_cons.1 member with rfl | member
        · have notInFirst := inductionHypothesis List.mem_cons_self
          simp [notInFirst, Ne.symm same]
        · exact inductionHypothesis (List.mem_cons_of_mem first member)

theorem splitOn_of_notMem {separator : Char} {part : List Char} (notMem : separator ∉ part) :
    splitOn separator part = [part] := by
  induction part with
  | nil => rfl
  | cons char rest inductionHypothesis =>
      simp only [List.mem_cons, not_or] at notMem
      rw [splitOn, if_neg (Ne.symm notMem.1), inductionHypothesis notMem.2]

theorem splitOn_append_separator {separator : Char} {part : List Char} (notMem : separator ∉ part)
    (rest : List Char) : splitOn separator (part ++ separator :: rest) = part :: splitOn separator rest := by
  induction part with
  | nil => simp [splitOn]
  | cons char part inductionHypothesis =>
      simp only [List.mem_cons, not_or] at notMem
      rw [List.cons_append, splitOn, if_neg (Ne.symm notMem.1), inductionHypothesis notMem.2]

theorem splitOn_joinWith {separator : Char} {parts : List (List Char)} (nonempty : parts ≠ [])
    (notMem : ∀ part ∈ parts, separator ∉ part) : splitOn separator (joinWith separator parts) = parts := by
  induction parts with
  | nil => exact absurd rfl nonempty
  | cons part parts inductionHypothesis =>
      obtain ⟨notInPart, notInParts⟩ := List.forall_mem_cons.1 notMem
      cases parts with
      | nil => exact splitOn_of_notMem notInPart
      | cons next parts =>
          rw [joinWith_cons _ _ (List.cons_ne_nil next parts), splitOn_append_separator notInPart,
            inductionHypothesis (List.cons_ne_nil next parts) notInParts]

/-- What stands behind a text without a separator of its own is part of the last part. -/
theorem splitOn_append {separator : Char} {suffix : List Char} (notMem : separator ∉ suffix) (chars : List Char) :
    ∃ front last, splitOn separator chars = front ++ [last] ∧
      splitOn separator (chars ++ suffix) = front ++ [last ++ suffix] := by
  induction chars with
  | nil => exact ⟨[], [], rfl, splitOn_of_notMem notMem⟩
  | cons char rest inductionHypothesis =>
      obtain ⟨front, last, isSplit, isSplit'⟩ := inductionHypothesis
      rw [List.cons_append, splitOn, splitOn, isSplit, isSplit']
      by_cases same : char = separator
      · rw [if_pos same, if_pos same]
        exact ⟨[] :: front, last, rfl, rfl⟩
      · rw [if_neg same, if_neg same]
        cases front with
        | nil => exact ⟨[], char :: last, rfl, rfl⟩
        | cons part front => exact ⟨(char :: part) :: front, last, rfl, rfl⟩

end Folio.Text
