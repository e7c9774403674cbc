import Folio.Proofs.Work

/-!
Contract: outcomes and work with related results.

Owns: outcomes that are related results or one and the same fault; two pieces of work that come to such outcomes
and to related states, from all related states; and that results, faults, changes of results, doing one piece
after another and renaming faults keep either.

Does not own: which results and which states are related.
-/

namespace Folio

/-! ## Outcomes -/

/-- Related results, or the same error on both sides. -/
inductive Outcome.Rel {Error α β : Type} (related : α → β → Prop) : Except Error α → Except Error β → Prop
  | ok {result : α} {result' : β} (areRelated : related result result') :
      Outcome.Rel related (.ok result) (.ok result')
  | error (error : Error) : Outcome.Rel related (.error error) (.error error)

namespace Outcome.Rel

variable {Error Other α β γ δ : Type} {related : α → β → Prop} {related' : γ → δ → Prop}
  {outcome : Except Error α} {outcome' : Except Error β}

theorem of_eq {same same' : Except Error α} (equal : same = same') : Outcome.Rel Eq same same' := by
  subst equal
  cases same with
  | ok result => exact .ok rfl
  | error error => exact .error error

theorem eq {same same' : Except Error α} (rel : Outcome.Rel Eq same same') : same = same' := by
  cases rel with
  | ok equal => rw [equal]
  | error error => rfl

theorem bind (rel : Outcome.Rel related outcome outcome') {next : α → Except Error γ}
    {next' : β → Except Error δ}
    (nextRel : ∀ result result', related result result' → Outcome.Rel related' (next result) (next' result')) :
    Outcome.Rel related' (outcome >>= next) (outcome' >>= next') := by
  cases rel with
  | ok areRelated => exact nextRel _ _ areRelated
  | error error => exact .error error

theorem map (rel : Outcome.Rel related outcome outcome') {change : α → γ} {change' : β → δ}
    (changed : ∀ result result', related result result' → related' (change result) (change' result')) :
    Outcome.Rel related' (outcome.map change) (outcome'.map change') := by
  cases rel with
  | ok areRelated => exact .ok (changed _ _ areRelated)
  | error error => exact .error error

theorem mapError (rel : Outcome.Rel related outcome outcome') (rename : Error → Other) :
    Outcome.Rel related (outcome.mapError rename) (outcome'.mapError rename) := by
  cases rel with
  | ok areRelated => exact .ok areRelated
  | error error => exact .error (rename error)

end Outcome.Rel

/-! ## Work -/

/-- From related states both pieces of work come to related results or to the same fault, and to related
states. -/
def Work.Rel {left right α β : Type} (states : left → right → Prop) (results : α → β → Prop)
    (work : Work left α) (work' : Work right β) : Prop :=
  ∀ before before', states before before' →
    Outcome.Rel results (work before).1 (work' before').1 ∧ states (work before).2 (work' before').2

namespace Work.Rel

variable {left right α β γ δ : Type} {states : left → right → Prop} {results : α → β → Prop}
  {results' : γ → δ → Prop} {work : Work left α} {work' : Work right β}

theorem ofExcept {outcome : Except Fault α} {outcome' : Except Fault β}
    (rel : Outcome.Rel results outcome outcome') :
    Work.Rel states results (Work.ofExcept outcome) (Work.ofExcept outcome') :=
  fun _ _ areRelated => ⟨rel, areRelated⟩

theorem pure {result : α} {result' : β} (areRelated : results result result') :
    Work.Rel states results (Pure.pure result) (Pure.pure result') :=
  ofExcept (.ok areRelated)

theorem throw (fault : Fault) :
    Work.Rel states results (throw fault : Work left α) (throw fault : Work right β) :=
  ofExcept (.error fault)

theorem bind (rel : Work.Rel states results work work') {next : α → Work left γ} {next' : β → Work right δ}
    (nextRel : ∀ result result', results result result' →
      Work.Rel states results' (next result) (next' result')) :
    Work.Rel states results' (work >>= next) (work' >>= next') := by
  intro before before' areRelated
  rw [bind_apply, bind_apply]
  rcases isFirst : work before with ⟨outcome, between⟩
  rcases isSecond : work' before' with ⟨outcome', between'⟩
  obtain ⟨found, stillRelated⟩ := rel before before' areRelated
  rw [isFirst, isSecond] at found stillRelated
  cases found with
  | ok resultsRelated => exact nextRel _ _ resultsRelated between between' stillRelated
  | error fault => exact ⟨.error fault, stillRelated⟩

theorem rename (rel : Work.Rel states results work work') (name : Fault → Fault) :
    Work.Rel states results (tryCatch work fun fault => MonadExcept.throw (name fault))
      (tryCatch work' fun fault => MonadExcept.throw (name fault)) := by
  intro before before' areRelated
  rw [rename_apply, rename_apply]
  rcases isFirst : work before with ⟨outcome, after⟩
  rcases isSecond : work' before' with ⟨outcome', after'⟩
  obtain ⟨found, stillRelated⟩ := rel before before' areRelated
  rw [isFirst, isSecond] at found stillRelated
  cases found with
  | ok resultsRelated => exact ⟨.ok resultsRelated, stillRelated⟩
  | error fault => exact ⟨.error (name fault), stillRelated⟩

end Work.Rel

end Folio
