import Mathlib.Data.List.Forall2

/-!
Contract: results that may fail, taken apart.

Owns: deciding whether two results are the same, when one result after another is a success or a failure, when
a result with a changed value or a renamed error is one, and the results of a row and its first failure.
-/

namespace Folio

instance decidableEqExcept {Error α : Type} [DecidableEq Error] [DecidableEq α] :
    DecidableEq (Except Error α)
  | .ok result, .ok other => decidable_of_iff (result = other) ⟨congrArg Except.ok, Except.ok.inj⟩
  | .error error, .error other =>
      decidable_of_iff (error = other) ⟨congrArg Except.error, Except.error.inj⟩
  | .ok _, .error _ => .isFalse nofun
  | .error _, .ok _ => .isFalse nofun

/-- A success behind a bind is a success of both parts. -/
theorem bind_eq_ok {Error α β : Type} {first : Except Error α} {next : α → Except Error β}
    {result : β} :
    (first >>= next) = .ok result ↔ ∃ value, first = .ok value ∧ next value = .ok result := by
  cases first with
  | error error =>
      constructor
      · intro succeeded
        cases succeeded
      · rintro ⟨_, succeeded, _⟩
        cases succeeded
  | ok value =>
      constructor
      · intro succeeded
        exact ⟨value, rfl, succeeded⟩
      · rintro ⟨_, sameValue, succeeded⟩
        cases sameValue
        exact succeeded

/-- A failure behind a bind is one of the first part, or one of what follows its success. -/
theorem bind_eq_error {Error α β : Type} {first : Except Error α} {next : α → Except Error β}
    {error : Error} :
    (first >>= next) = .error error ↔
      first = .error error ∨ ∃ value, first = .ok value ∧ next value = .error error := by
  cases first with
  | error cause =>
      constructor
      · intro failed
        cases failed
        exact .inl rfl
      · rintro (failed | ⟨_, succeeded, _⟩)
        · cases failed
          rfl
        · cases succeeded
  | ok value =>
      constructor
      · intro failed
        exact .inr ⟨value, rfl, failed⟩
      · rintro (failed | ⟨_, sameValue, failed⟩)
        · cases failed
        · cases sameValue
          exact failed

theorem exists_of_isOk {Error α : Type} {outcome : Except Error α} (isOk : outcome.isOk = true) :
    ∃ value, outcome = .ok value := by
  cases outcome with
  | ok value => exact ⟨value, rfl⟩
  | error error => cases isOk

theorem toOption_eq_some {Error α : Type} {outcome : Except Error α} {result : α} :
    outcome.toOption = some result ↔ outcome = .ok result := by
  cases outcome with
  | ok value => simp [Except.toOption]
  | error error => simp [Except.toOption]

theorem map_eq_ok {Error α β : Type} {outcome : Except Error α} {change : α → β} {result : β} :
    outcome.map change = .ok result ↔ ∃ value, outcome = .ok value ∧ change value = result := by
  cases outcome with
  | error error =>
      constructor
      · intro succeeded
        cases succeeded
      · rintro ⟨_, succeeded, _⟩
        cases succeeded
  | ok value =>
      constructor
      · intro succeeded
        exact ⟨value, rfl, Except.ok.inj succeeded⟩
      · rintro ⟨_, sameValue, rfl⟩
        cases sameValue
        rfl

theorem map_eq_error {Error α β : Type} {outcome : Except Error α} {change : α → β} {error : Error} :
    outcome.map change = .error error ↔ outcome = .error error := by
  cases outcome with
  | error error' =>
      constructor
      · intro failed
        cases failed
        rfl
      · intro failed
        cases failed
        rfl
  | ok value =>
      constructor
      · intro failed
        cases failed
      · intro failed
        cases failed

theorem mapError_eq_ok {Error Other α : Type} {outcome : Except Error α} {rename : Error → Other}
    {result : α} : outcome.mapError rename = .ok result ↔ outcome = .ok result := by
  cases outcome with
  | error error =>
      constructor
      · intro succeeded
        cases succeeded
      · intro succeeded
        cases succeeded
  | ok value =>
      constructor
      · intro succeeded
        cases succeeded
        rfl
      · intro succeeded
        cases succeeded
        rfl

theorem mapError_eq_error {Error Other α : Type} {outcome : Except Error α} {rename : Error → Other}
    {error : Other} :
    outcome.mapError rename = .error error ↔ ∃ cause, outcome = .error cause ∧ rename cause = error := by
  cases outcome with
  | error cause =>
      constructor
      · intro failed
        exact ⟨cause, rfl, Except.error.inj failed⟩
      · rintro ⟨_, sameCause, rfl⟩
        cases sameCause
        rfl
  | ok value =>
      constructor
      · intro failed
        cases failed
      · rintro ⟨_, failed, _⟩
        cases failed

/-- A row that is changed is its first item changed and the others. -/
theorem mapM_cons_eq_ok {Error α β : Type} {change : α → Except Error β} {first : α} {values : List α}
    {results : List β} (mapped : (first :: values).mapM change = .ok results) :
    ∃ result others, change first = .ok result ∧ values.mapM change = .ok others ∧
      results = result :: others := by
  rw [List.mapM_cons] at mapped
  obtain ⟨result, changed, mapped⟩ := bind_eq_ok.1 mapped
  obtain ⟨others, othersMapped, mapped⟩ := bind_eq_ok.1 mapped
  cases mapped
  exact ⟨result, others, changed, othersMapped, rfl⟩

theorem mem_of_mapM {Error α β : Type} {change : α → Except Error β} {values : List α}
    {results : List β} (mapped : values.mapM change = .ok results) {value : α}
    (member : value ∈ values) : ∃ result ∈ results, change value = .ok result := by
  induction values generalizing results with
  | nil => cases member
  | cons first values inductionHypothesis =>
      obtain ⟨result, others, changed, othersMapped, rfl⟩ := mapM_cons_eq_ok mapped
      rcases List.mem_cons.1 member with rfl | member
      · exact ⟨result, List.mem_cons_self, changed⟩
      · obtain ⟨other, otherMember, changed⟩ := inductionHypothesis othersMapped member
        exact ⟨other, List.mem_cons_of_mem _ otherMember, changed⟩

theorem exists_of_mem_mapM {Error α β : Type} {change : α → Except Error β} {values : List α}
    {results : List β} (mapped : values.mapM change = .ok results) {result : β}
    (member : result ∈ results) : ∃ value ∈ values, change value = .ok result := by
  induction values generalizing results with
  | nil =>
      cases mapped
      cases member
  | cons first values inductionHypothesis =>
      obtain ⟨other, others, changed, othersMapped, rfl⟩ := mapM_cons_eq_ok mapped
      rcases List.mem_cons.1 member with rfl | member
      · exact ⟨first, List.mem_cons_self, changed⟩
      · obtain ⟨value, valueMember, changed⟩ := inductionHypothesis othersMapped member
        exact ⟨value, List.mem_cons_of_mem _ valueMember, changed⟩

/-- A row that is changed is changed item by item. -/
theorem forall₂_of_mapM {Error α β : Type} {change : α → Except Error β} {values : List α}
    {results : List β} (mapped : values.mapM change = .ok results) :
    List.Forall₂ (fun value result => change value = .ok result) values results := by
  induction values generalizing results with
  | nil =>
      cases mapped
      exact .nil
  | cons first values inductionHypothesis =>
      obtain ⟨result, others, changed, othersMapped, rfl⟩ := mapM_cons_eq_ok mapped
      exact .cons changed (inductionHypothesis othersMapped)

/-- A row that cannot be changed has an item that cannot. -/
theorem exists_of_mapM_error {Error α β : Type} {change : α → Except Error β} {values : List α} {error : Error}
    (failed : values.mapM change = .error error) : ∃ value ∈ values, change value = .error error := by
  induction values with
  | nil => cases failed
  | cons first values inductionHypothesis =>
      rw [List.mapM_cons] at failed
      rcases bind_eq_error.1 failed with unchanged | ⟨result, -, failed⟩
      · exact ⟨first, List.mem_cons_self, unchanged⟩
      · rcases bind_eq_error.1 failed with failed | ⟨others, -, made⟩
        · obtain ⟨value, member, unchanged⟩ := inductionHypothesis failed
          exact ⟨value, List.mem_cons_of_mem first member, unchanged⟩
        · cases made

/-- A check of a row passes if each item does. -/
theorem forM_eq_ok {Error α : Type} {check : α → Except Error Unit} {values : List α} :
    values.forM check = .ok () ↔ ∀ value ∈ values, check value = .ok () := by
  induction values with
  | nil => exact ⟨fun _ _ member => absurd member List.not_mem_nil, fun _ => rfl⟩
  | cons first values inductionHypothesis =>
      change (check first >>= fun _ => values.forM check) = _ ↔ _
      rw [bind_eq_ok, List.forall_mem_cons, ← inductionHypothesis]
      exact ⟨fun ⟨⟨⟩, passes, others⟩ => ⟨passes, others⟩, fun ⟨passes, others⟩ => ⟨(), passes, others⟩⟩

/-- A check of a row fails at the first item that does not pass it. -/
theorem forM_eq_error {Error α : Type} {check : α → Except Error Unit} {values : List α} {error : Error} :
    values.forM check = .error error ↔ ∃ front value back, values = front ++ value :: back ∧
      (∀ passed ∈ front, check passed = .ok ()) ∧ check value = .error error := by
  induction values with
  | nil =>
      constructor
      · intro failed
        cases failed
      · rintro ⟨front, value, back, isRow, -, -⟩
        cases front <;> cases isRow
  | cons first values inductionHypothesis =>
      change (check first >>= fun _ => values.forM check) = _ ↔ _
      rw [bind_eq_error]
      constructor
      · rintro (refused | ⟨⟨⟩, passes, failed⟩)
        · exact ⟨[], first, values, rfl, fun _ member => absurd member List.not_mem_nil, refused⟩
        · obtain ⟨front, value, back, rfl, passed, refused⟩ := inductionHypothesis.1 failed
          exact ⟨first :: front, value, back, rfl, List.forall_mem_cons.2 ⟨passes, passed⟩, refused⟩
      · rintro ⟨front, value, back, isRow, passed, refused⟩
        cases front with
        | nil =>
            cases isRow
            exact .inl refused
        | cons first' front =>
            cases isRow
            obtain ⟨passes, passed⟩ := List.forall_mem_cons.1 passed
            exact .inr ⟨(), passes, inductionHypothesis.2 ⟨front, value, back, rfl, passed, refused⟩⟩

end Folio
