import Folio.Work

/-!
Contract: what work keeps, and work that cannot be told apart.

Owns: regrouping pieces of work; successes and failures of one piece of work behind another, and of a row of
pieces; safe work, which keeps a condition on the state and fails in allowed ways only; agreement of two
pieces of work on related states; and that results, faults, doing one piece after another and renaming faults
keep either.

Does not own: which states are related, and which faults are allowed.
-/

namespace Folio.Work

variable {left right : Type} {α β : Type} {related : left → right → Prop} {excused : Fault → Prop}

theorem bind_assoc {state γ : Type} (first : Work state α) (next : α → Work state β)
    (last : β → Work state γ) :
    (first >>= next >>= last) = first >>= fun result => next result >>= last := by
  funext before
  rw [bind_apply, bind_apply, bind_apply]
  rcases first before with ⟨outcome, between⟩
  cases outcome with
  | ok result => rfl
  | error fault => rfl

theorem bind_pure {state : Type} (work : Work state α) : work >>= pure = work := by
  funext before
  rw [bind_apply]
  rcases work before with ⟨outcome, after⟩
  cases outcome with
  | ok result => rfl
  | error fault => rfl

theorem rename_apply {state : Type} (work : Work state α) (name : Fault → Fault) (before : state) :
    (tryCatch work fun fault => throw (name fault)) before =
      match work before with
      | (.ok result, after) => (.ok result, after)
      | (.error fault, after) => (.error (name fault), after) := by
  simp only [tryCatch, throw]
  rcases work before with ⟨outcome, after⟩
  cases outcome with
  | ok result => rfl
  | error fault => rfl

/-- A success behind a bind is a success of both parts, the second one on the state behind the first. -/
theorem of_bind_eq_ok {state : Type} {first : Work state α} {next : α → Work state β}
    {before : state} {result : β} (succeeded : ((first >>= next) before).1 = .ok result) :
    ∃ value, (first before).1 = .ok value ∧ (next value (first before).2).1 = .ok result := by
  rw [bind_apply] at succeeded
  rcases isFirst : first before with ⟨outcome, between⟩
  rw [isFirst] at succeeded
  cases outcome with
  | ok value => exact ⟨value, rfl, succeeded⟩
  | error fault => cases succeeded

/-! ## Failures -/

/-- A failure behind a bind is one of the first piece, or one of the second behind a success of the first. -/
theorem bind_eq_error {state : Type} {first : Work state α} {next : α → Work state β} {before : state}
    {fault : Fault} :
    ((first >>= next) before).1 = .error fault ↔
      (first before).1 = .error fault ∨
        ∃ result between, first before = (.ok result, between) ∧ (next result between).1 = .error fault := by
  rw [bind_apply]
  rcases first before with ⟨outcome, between⟩
  cases outcome with
  | ok result =>
      constructor
      · intro failed
        exact .inr ⟨result, between, rfl, failed⟩
      · rintro (failed | ⟨result', between', same, failed⟩)
        · cases failed
        · cases same
          exact failed
  | error fault' =>
      constructor
      · intro failed
        cases failed
        exact .inl rfl
      · rintro (failed | ⟨result, between', same, -⟩)
        · cases failed
          rfl
        · cases same

/-- A success behind a bind, with the states. -/
theorem bind_eq_ok_at {state : Type} {first : Work state α} {next : α → Work state β}
    {before after : state} {result : β} :
    (first >>= next) before = (.ok result, after) ↔
      ∃ value between, first before = (.ok value, between) ∧ next value between = (.ok result, after) := by
  rw [bind_apply]
  rcases first before with ⟨outcome, between⟩
  cases outcome with
  | ok value =>
      constructor
      · intro succeeded
        exact ⟨value, between, rfl, succeeded⟩
      · rintro ⟨value', between', same, succeeded⟩
        cases same
        exact succeeded
  | error fault =>
      constructor
      · intro succeeded
        cases succeeded
      · rintro ⟨value, between', same, -⟩
        cases same

/-- Work on a row of items, one after the other, fails exactly if one of them fails behind successes of all
before it. What the results are joined to does not matter. -/
theorem row_eq_error {state item : Type} {run : List item → Work state β} {one : item → Work state α}
    (nothing : β) (join : α → β → β) (atEnd : run [] = Pure.pure nothing)
    (atItem : ∀ first rest, run (first :: rest) =
      one first >>= fun result => run rest >>= fun results => Pure.pure (join result results))
    {items : List item} {before : state} {fault : Fault} :
    (run items before).1 = .error fault ↔
      ∃ front failing back results between, items = front ++ failing :: back ∧
        run front before = (.ok results, between) ∧ (one failing between).1 = .error fault := by
  induction items generalizing before with
  | nil =>
      rw [atEnd]
      constructor
      · intro failed
        cases failed
      · rintro ⟨front, failing, back, results, between, isRow, -, -⟩
        cases front <;> cases isRow
  | cons first rest inductionHypothesis =>
      rw [atItem, bind_eq_error]
      constructor
      · rintro (failed | ⟨result, between, succeeded, failed⟩)
        · exact ⟨[], first, rest, nothing, before, rfl, by rw [atEnd]; rfl, failed⟩
        · rcases bind_eq_error.1 failed with failed | ⟨_, _, _, impossible⟩
          · obtain ⟨front, failing, back, results, between', rfl, frontSucceeded, failed⟩ :=
              inductionHypothesis.1 failed
            refine ⟨first :: front, failing, back, join result results, between', rfl, ?_, failed⟩
            rw [atItem]
            exact bind_eq_ok_at.2 ⟨result, between, succeeded,
              bind_eq_ok_at.2 ⟨results, between', frontSucceeded, rfl⟩⟩
          · cases impossible
      · rintro ⟨front, failing, back, results, between, isRow, frontSucceeded, failed⟩
        cases front with
        | nil =>
            cases isRow
            rw [atEnd] at frontSucceeded
            cases frontSucceeded
            exact .inl failed
        | cons next front =>
            cases isRow
            rw [atItem] at frontSucceeded
            obtain ⟨result, between', succeeded, frontSucceeded⟩ := bind_eq_ok_at.1 frontSucceeded
            obtain ⟨results', after, frontSucceeded, isJoined⟩ := bind_eq_ok_at.1 frontSucceeded
            cases isJoined
            refine .inr ⟨result, between', succeeded, bind_eq_error.2 (.inl ?_)⟩
            exact inductionHypothesis.2
              ⟨front, failing, back, results', between, rfl, frontSucceeded, failed⟩

/-! ## Safe work -/

/-- From a state on which a condition holds, work leaves such a state again. Its result has a property, and
its fault, if it has one, is allowed. -/
def Safe {state : Type} (holds : state → Prop) (allowed : Fault → Prop) (good : α → Prop)
    (work : Work state α) : Prop :=
  ∀ before, holds before → holds (work before).2 ∧
    (∀ result, (work before).1 = .ok result → good result) ∧
      ∀ fault, (work before).1 = .error fault → allowed fault

namespace Safe

variable {state : Type} {holds : state → Prop} {allowed : Fault → Prop} {good : α → Prop}
  {better : β → Prop}

theorem ofExcept {outcome : Except Fault α} (isGood : ∀ result, outcome = .ok result → good result)
    (isAllowed : ∀ fault, outcome = .error fault → allowed fault) :
    Safe holds allowed good (Work.ofExcept outcome) :=
  fun _ held => ⟨held, isGood, isAllowed⟩

theorem pure {result : α} (isGood : good result) :
    Safe holds allowed good (Pure.pure result : Work state α) := by
  refine ofExcept ?_ (fun _ => nofun)
  intro other same
  cases same
  exact isGood

theorem throw {fault : Fault} (isAllowed : allowed fault) :
    Safe holds allowed good (MonadExcept.throw fault : Work state α) := by
  refine ofExcept (fun _ => nofun) ?_
  intro other same
  cases same
  exact isAllowed

theorem bind {first : Work state α} {next : α → Work state β} (safe : Safe holds allowed good first)
    (nextSafe : ∀ result, good result → Safe holds allowed better (next result)) :
    Safe holds allowed better (first >>= next) := by
  intro before held
  rw [bind_apply]
  rcases isFirst : first before with ⟨outcome, between⟩
  obtain ⟨stillHeld, isGood, isAllowed⟩ := safe before held
  rw [isFirst] at stillHeld isGood isAllowed
  cases outcome with
  | ok result => exact nextSafe result (isGood result rfl) between stillHeld
  | error fault =>
      refine ⟨stillHeld, fun _ => nofun, ?_⟩
      intro other same
      cases same
      exact isAllowed fault rfl

/-- Faults may be renamed, if allowed ones stay allowed. -/
theorem rename {work : Work state α} {name : Fault → Fault}
    (staysAllowed : ∀ fault, allowed fault → allowed (name fault))
    (safe : Safe holds allowed good work) :
    Safe holds allowed good (tryCatch work fun fault => MonadExcept.throw (name fault)) := by
  intro before held
  rw [rename_apply]
  obtain ⟨stillHeld, isGood, isAllowed⟩ := safe before held
  rcases isWork : work before with ⟨outcome, after⟩
  rw [isWork] at stillHeld isGood isAllowed
  cases outcome with
  | ok result => exact ⟨stillHeld, isGood, fun _ => nofun⟩
  | error fault =>
      refine ⟨stillHeld, fun _ => nofun, ?_⟩
      intro other same
      cases same
      exact staysAllowed fault (isAllowed fault rfl)

end Safe

/-! ## Agreement -/

/-- From related states both pieces of work come to the same result and to related states. The first one
may fail in an excused way instead; nothing is said about the second one then. -/
def Agrees (related : left → right → Prop) (excused : Fault → Prop) (first : Work left α)
    (second : Work right α) : Prop :=
  ∀ before before', related before before' →
    (∃ fault, (first before).1 = .error fault ∧ excused fault) ∨
      ((first before).1 = (second before').1 ∧ related (first before).2 (second before').2)

namespace Agrees

theorem ofExcept (result : Except Fault α) :
    Agrees related excused (Work.ofExcept result) (Work.ofExcept result) :=
  fun _ _ areRelated => .inr ⟨rfl, areRelated⟩

theorem pure (result : α) : Agrees related excused (Pure.pure result) (Pure.pure result) :=
  fun _ _ areRelated => .inr ⟨rfl, areRelated⟩

theorem throw (fault : Fault) :
    Agrees related excused (throw fault : Work left α) (throw fault : Work right α) :=
  fun _ _ areRelated => .inr ⟨rfl, areRelated⟩

/-- An excused fault agrees with everything. -/
theorem throw_excused {fault : Fault} (isExcused : excused fault) (second : Work right α) :
    Agrees related excused (MonadExcept.throw fault : Work left α) second :=
  fun _ _ _ => .inl ⟨fault, rfl, isExcused⟩

theorem bind {first : Work left α} {second : Work right α} {next : α → Work left β}
    {next' : α → Work right β} (agrees : Agrees related excused first second)
    (nextAgrees : ∀ result, Agrees related excused (next result) (next' result)) :
    Agrees related excused (first >>= next) (second >>= next') := by
  intro before before' areRelated
  rw [bind_apply, bind_apply]
  rcases isFirst : first before with ⟨outcome, between⟩
  rcases isSecond : second before' with ⟨outcome', between'⟩
  have found := agrees before before' areRelated
  rw [isFirst, isSecond] at found
  rcases found with ⟨fault, isFault, isExcused⟩ | ⟨same, stillRelated⟩
  · cases isFault
    exact .inl ⟨fault, rfl, isExcused⟩
  · cases same
    cases outcome with
    | ok result => exact nextAgrees result between between' stillRelated
    | error fault => exact .inr ⟨rfl, stillRelated⟩

/-- Faults may be renamed, if excused ones stay excused. -/
theorem rename {first : Work left α} {second : Work right α} {name : Fault → Fault}
    (staysExcused : ∀ fault, excused fault → excused (name fault))
    (agrees : Agrees related excused first second) :
    Agrees related excused (tryCatch first fun fault => MonadExcept.throw (name fault))
      (tryCatch second fun fault => MonadExcept.throw (name fault)) := by
  intro before before' areRelated
  rw [rename_apply, rename_apply]
  rcases isFirst : first before with ⟨outcome, between⟩
  rcases isSecond : second before' with ⟨outcome', between'⟩
  have found := agrees before before' areRelated
  rw [isFirst, isSecond] at found
  rcases found with ⟨fault, isFault, isExcused⟩ | ⟨same, stillRelated⟩
  · cases isFault
    exact .inl ⟨name fault, rfl, staysExcused fault isExcused⟩
  · cases same
    cases outcome with
    | ok result => exact .inr ⟨rfl, stillRelated⟩
    | error fault => exact .inr ⟨rfl, stillRelated⟩

/-- Where nothing is excused both come to the same. -/
theorem same {first : Work left α} {second : Work right α}
    (agrees : Agrees related (fun _ => False) first second) {before : left} {before' : right}
    (areRelated : related before before') :
    (first before).1 = (second before').1 ∧ related (first before).2 (second before').2 := by
  rcases agrees before before' areRelated with ⟨_, _, impossible⟩ | same
  · exact impossible.elim
  · exact same

end Agrees

end Folio.Work
