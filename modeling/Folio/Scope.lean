import Folio.Mishap
import Folio.Value.Basic

/-!
Contract: the names that an expression can see.

Owns:
- frames of bindings, kept in one store in the order in which they were made;
- the chain of frames that is visible from the current one, and finding a name in it;
- children: frames that are current for a while and leave no trace behind;
- runs of moves on a store with its open children.

A frame names its parent by the parent's number, which counts from the oldest frame. A parent is always
looked for among the older frames, so every chain ends.
-/

namespace Folio

structure Frame where
  bindings : Entries
  parent : Option Nat
  label : String
deriving Repr

/-- The frames, newest first; the number of the current one; the count of open children. -/
structure Scope where
  frames : List Frame
  current : Option Nat
  nesting : Nat
deriving Repr

/-- The frames from one number upwards to the root. -/
def frameChain : List Frame → Option Nat → List Frame
  | [], _ => []
  | _ :: _, none => []
  | frame :: older, some index =>
      if index = older.length then frame :: frameChain older frame.parent
      else frameChain older (some index)

/-- The binding of a key that stands nearest; an explicit `null` is a binding. -/
def findKey (frames : List Frame) (key : Value) : Option Value :=
  frames.findSome? fun frame => Entries.at? frame.bindings key

def findBinding (frames : List Frame) (name : String) : Option Value :=
  findKey frames (.str name)

namespace Scope

def empty : Scope := ⟨[], none, 0⟩

/-- Adds a frame on top of the current one, which stays current. -/
def push (scope : Scope) (bindings : Entries) (label : String) : Scope :=
  { scope with frames := ⟨bindings, scope.current, label⟩ :: scope.frames }

/-- Adds a frame and makes it current. -/
def extend (scope : Scope) (bindings : Entries) (label : String) : Scope :=
  { scope.push bindings label with current := some scope.frames.length }

def ofRoot (bindings : Entries) (label : String) : Scope :=
  empty.extend bindings label

def chain (scope : Scope) : List Frame :=
  frameChain scope.frames scope.current

def resolve (scope : Scope) (name : String) : Option Value :=
  findBinding scope.chain name

def lookup (scope : Scope) (name : String) (default : Value) : Value :=
  (scope.resolve name).getD default

/-- A look-up of any key; what cannot be a key fails, unless no frame is visible. -/
def lookupKey (scope : Scope) (key default : Value) : Except Mishap Value :=
  match scope.chain, key.unkeyable? with
  | _ :: _, some part => .error (.unkeyable part.kindName)
  | frames, _ => .ok ((findKey frames key).getD default)

def depth (scope : Scope) : Nat :=
  scope.chain.length

/-! ## Children -/

/-- What is restored when a child is left: its own number and the frame that was current before. -/
structure Child where
  index : Nat
  saved : Option Nat
deriving DecidableEq, Repr

def enter (scope : Scope) (bindings : Entries) (label : String) : Child × Scope :=
  (⟨scope.frames.length, scope.current⟩,
    { scope.extend bindings label with nesting := scope.nesting + 1 })

/-- The frame of the child goes if it is the newest; frames that were pushed above it stay. -/
def leave (scope : Scope) (child : Child) : Scope :=
  let frames := if child.index + 1 = scope.frames.length then scope.frames.tail else scope.frames
  ⟨frames, child.saved, scope.nesting - 1⟩

end Scope

/-! ## Moves -/

/-- `leave` ends the innermost child, whether its work was done or failed. -/
inductive ScopeMove where
  | push (bindings : Entries) (label : String)
  | extend (bindings : Entries) (label : String)
  | enter (bindings : Entries) (label : String)
  | leave
deriving Repr

/-- A scope with its open children, innermost first. -/
structure OpenScope where
  scope : Scope
  children : List Scope.Child
deriving Repr

/-- Without an open child there is nothing to leave. -/
def OpenScope.move (state : OpenScope) : ScopeMove → OpenScope
  | .push bindings label => { state with scope := state.scope.push bindings label }
  | .extend bindings label => { state with scope := state.scope.extend bindings label }
  | .enter bindings label =>
      let (child, scope) := state.scope.enter bindings label
      ⟨scope, child :: state.children⟩
  | .leave =>
      match state.children with
      | [] => state
      | child :: children => ⟨state.scope.leave child, children⟩

end Folio
