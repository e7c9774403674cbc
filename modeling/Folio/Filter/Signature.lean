/-!
Contract: how many arguments a filter takes.

Owns: the parameters of a filter's signature, the range of argument counts that they admit, and whether
a count lies in a range.

The first parameters of a filter are filled by the pipeline and not by arguments: the value, and for some
filters what they may observe. Parameters that are only given by name take no arguments at all.
-/

namespace Folio

inductive ParameterKind where
  | positional
  | positionalOnly
  | rest
  | named
  | namedRest
deriving DecidableEq, Repr

structure Parameter where
  name : String
  kind : ParameterKind
  hasDefault : Bool
deriving DecidableEq, Repr

namespace Parameter

def required (name : String) : Parameter := ⟨name, .positional, false⟩

def optional (name : String) : Parameter := ⟨name, .positional, true⟩

def takesArguments (parameter : Parameter) : Bool :=
  match parameter.kind with
  | .positional | .positionalOnly | .rest => true
  | .named | .namedRest => false

def isRest (parameter : Parameter) : Bool :=
  parameter.kind = .rest

/-- Has to be filled by an argument. -/
def isRequired (parameter : Parameter) : Bool :=
  !parameter.isRest && !parameter.hasDefault

end Parameter

/-- The least and the greatest number of arguments; without a greatest one there is no limit. -/
structure Arity where
  least : Int
  most : Option Int
deriving DecidableEq, Repr

def Arity.accepts (arity : Arity) (count : Int) : Bool :=
  arity.least ≤ count && arity.most.all fun most => count ≤ most

/-- The arguments that parameters take when the first `filled` of them are filled already. A parameter for
all the rest among the filled ones leaves every count open. -/
def Arity.ofParameters (parameters : List Parameter) (filled : Nat) : Arity :=
  let admitting := parameters.filter Parameter.takesArguments
  if (admitting.take filled).any Parameter.isRest then ⟨0, none⟩
  else
    let explicit := admitting.drop filled
    let least := (explicit.filter Parameter.isRequired).length
    if explicit.any Parameter.isRest then ⟨least, none⟩ else ⟨least, some explicit.length⟩

end Folio
