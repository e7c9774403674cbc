import Folio.Fault

/-!
Contract: work that keeps a state and may fail.

Owns: the type of such work, doing one piece after another, and working on a part of a state. What a piece
of work has changed before it fails stays changed.
-/

namespace Folio

/-- Work on a state: its result or its fault, and the state that it leaves. -/
def Work (state result : Type) : Type :=
  state → Except Fault result × state

namespace Work

variable {state part α β : Type}

def done (result : α) : Work state α :=
  fun before => (.ok result, before)

def fail (fault : Fault) : Work state α :=
  fun before => (.error fault, before)

/-- The second piece is done only if the first has a result. -/
def andThen (first : Work state α) (next : α → Work state β) : Work state β :=
  fun before =>
    match first before with
    | (.ok result, between) => next result between
    | (.error fault, after) => (.error fault, after)

instance : Monad (Work state) where
  pure := done
  bind := andThen

instance : MonadExcept Fault (Work state) where
  throw := fail
  tryCatch work handler := fun before =>
    match work before with
    | (.ok result, after) => (.ok result, after)
    | (.error fault, between) => handler fault between

/-- A result that is known without looking at the state. -/
def ofExcept (result : Except Fault α) : Work state α :=
  fun before => (result, before)

def read : Work state state :=
  fun before => (.ok before, before)

def write (after : state) : Work state Unit :=
  fun _ => (.ok (), after)

/-- Work on a part of a state, in the whole state. -/
def within (get : state → part) (put : part → state → state) (work : Work part α) :
    Work state α :=
  fun before =>
    let (result, after) := work (get before)
    (result, put after before)

@[simp] theorem pure_apply (result : α) (before : state) :
    (pure result : Work state α) before = (.ok result, before) := rfl

@[simp] theorem throw_apply (fault : Fault) (before : state) :
    (throw fault : Work state α) before = (.error fault, before) := rfl

@[simp] theorem ofExcept_apply (result : Except Fault α) (before : state) :
    ofExcept result before = (result, before) := rfl

theorem bind_apply (first : Work state α) (next : α → Work state β) (before : state) :
    (first >>= next) before =
      match first before with
      | (.ok result, between) => next result between
      | (.error fault, after) => (.error fault, after) := rfl

end Work

end Folio
