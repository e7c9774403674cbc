import Folio.Fault
import Folio.Filter.Signature
import Folio.Scope
import Folio.Text.Order

/-!
Contract: the filters that a site knows.

Owns: what a filter does, filters under their names, registering one before the registry is frozen, and
copies of a registry.
Does not own: running a filter.
-/

namespace Folio

open Folio.Text

/-- What a filter does with a value and its arguments. A plain filter sees nothing else, an observing one
sees the scope as well; the other two hand a template to the renderer. -/
inductive FilterAction where
  | plain (run : Value → List Value → Except Fault Value)
  | observing (run : Scope → Value → List Value → Except Fault Value)
  | includePage
  | repeatTemplate

structure FilterSpec where
  name : String
  action : FilterAction
  arity : Arity

namespace FilterAction

/-- Whether a filter is given more than its value and its arguments. -/
def isContextual : FilterAction → Bool
  | .plain _ => false
  | _ => true

/-- The number of parameters that the pipeline fills. -/
def filledParameters (action : FilterAction) : Nat :=
  if action.isContextual then 2 else 1

end FilterAction

/-- A filter as it is offered for registration: the bounds on its arguments come from its parameters
unless they are given. -/
structure FilterOffer where
  action : FilterAction
  parameters : List Parameter
  least : Option Int
  most : Option Int

def FilterOffer.arity (offer : FilterOffer) : Arity :=
  let derived := Arity.ofParameters offer.parameters offer.action.filledParameters
  ⟨offer.least.getD derived.least, offer.most.or derived.most⟩

/-- The name of a filter that is offered under an optional name; an empty one counts as none. -/
def offeredName (name : Option String) (function : String) : String :=
  match name with
  | some name => if name == "" then function else name
  | none => function

structure FilterRegistry where
  specs : List FilterSpec
  isFrozen : Bool

namespace FilterRegistry

def empty : FilterRegistry := ⟨[], false⟩

def find? (registry : FilterRegistry) (name : String) : Option FilterSpec :=
  registry.specs.find? fun spec => spec.name == name

def contains (registry : FilterRegistry) (name : String) : Bool :=
  (registry.find? name).isSome

def get (registry : FilterRegistry) (name : String) : Except Fault FilterSpec :=
  match registry.find? name with
  | some spec => .ok spec
  | none => .error (.unknownFilter name)

/-- A filter takes the place of an earlier one of its name. -/
def put (registry : FilterRegistry) (spec : FilterSpec) : FilterRegistry :=
  { registry with
    specs := spec :: registry.specs.filter fun other => other.name != spec.name }

def register (registry : FilterRegistry) (name : String) (offer : FilterOffer) :
    Except Mishap (FilterSpec × FilterRegistry) :=
  if registry.isFrozen then .error (.frozenRegistry name)
  else
    let spec : FilterSpec := ⟨name, offer.action, offer.arity⟩
    .ok (spec, registry.put spec)

/-- What is said about a registration that replaces a filter. -/
def overwriteWarning (name : String) : String :=
  "Filter '" ++ name ++ "' overwrites existing filter"

def freeze (registry : FilterRegistry) : FilterRegistry :=
  { registry with isFrozen := true }

/-- A copy may be extended even if its model is frozen. -/
def copy (registry : FilterRegistry) : FilterRegistry :=
  { registry with isFrozen := false }

def names (registry : FilterRegistry) : List String :=
  sortTexts (registry.specs.map FilterSpec.name)

def size (registry : FilterRegistry) : Nat :=
  registry.specs.length

end FilterRegistry

end Folio
