import Folio.Render.Session
import Folio.Template.Expr
import Folio.Value.Property

/-!
Contract: the values of expressions.

Owns: the value of an expression in the scope of a render. A name that is bound nowhere is `null`. A path
ends as soon as its value is `null`; the keys behind that are not evaluated. The stages of a pipeline run
from left to right, each with its arguments evaluated just before it.
Does not own: calling a filter, which is a parameter here.
-/

namespace Folio

open Folio.Template

/-- Calls the filter of a name with a value and arguments. -/
abbrev FilterCall := String → Value → List Value → Render Value

def Render.property (value segment : Value) : Render Value :=
  Work.ofExcept ((value.property segment).mapError .mishap)

mutual

def evaluate (call : FilterCall) : Expr → Render Value
  | .literal literal => pure literal.toValue
  | .path head segments => do
      match ← Render.resolve head with
      | none => return .null
      | some value => followSegments call segments value
  | .array items => do return .list (← evaluateItems call items)
  | .object entries => do return .map (← evaluateEntries call entries [])
  | .pipeline root stages => do runStages call stages (← evaluate call root)

def followSegments (call : FilterCall) : List Segment → Value → Render Value
  | [], value => pure value
  | segment :: segments, value =>
      match value with
      | .null => pure .null
      | value => do
          let key ← evaluateSegment call segment
          let next ← Render.property value key
          followSegments call segments next

def evaluateSegment (call : FilterCall) : Segment → Render Value
  | .property name => pure (.str name)
  | .index key => evaluate call key

def evaluateItems (call : FilterCall) : List Expr → Render (List Value)
  | [] => pure []
  | item :: items => do
      let first ← evaluate call item
      let rest ← evaluateItems call items
      return first :: rest

/-- Adds entries to those before them; a repeated key keeps its place and takes the last value. -/
def evaluateEntries (call : FilterCall) : List (String × Expr) → Entries → Render Entries
  | [], before => pure before
  | (key, expr) :: entries, before => do
      let value ← evaluate call expr
      evaluateEntries call entries (Entries.put before (.str key) value)

def runStages (call : FilterCall) : List Stage → Value → Render Value
  | [], value => pure value
  | .mk name arguments _ _ :: stages, value => do
      let arguments ← evaluateItems call arguments
      let next ← call name value arguments
      runStages call stages next

end

/-- The value of a whole expression. -/
def evaluatePipeline (call : FilterCall) (pipeline : Pipeline) : Render Value := do
  let value ← evaluate call pipeline.root
  runStages call pipeline.stages value

end Folio
