import Folio.Value.Basic

/-!
Contract: expressions as trees.

Owns: literals, paths, arrays, objects and pipelines, the pipeline that a whole expression is, and
replacing a pipeline without stages by its root.
Does not own: reading or evaluating expressions.
-/

namespace Folio.Template

open Folio.Number

inductive Literal where
  | null
  | bool (value : Bool)
  | int (value : Int)
  | float (value : Binary64)
  | str (text : String)
deriving DecidableEq, Repr

def Literal.toValue : Literal → Value
  | .null => .null
  | .bool value => .bool value
  | .int value => .int value
  | .float value => .float value
  | .str text => .str text

mutual

inductive Expr where
  | literal (value : Literal)
  | path (head : String) (segments : List Segment)
  | array (items : List Expr)
  | object (entries : List (String × Expr))
  | pipeline (root : Expr) (stages : List Stage)

/-- One step of a path: a property by its name, or by the value of an expression. -/
inductive Segment where
  | property (name : String)
  | index (key : Expr)

/-- A filter with its arguments and the place where it is named. -/
inductive Stage where
  | mk (name : String) (arguments : List Expr) (line column : Int)

end

deriving instance Repr for Expr, Segment, Stage

instance : Inhabited Expr := ⟨.literal .null⟩

def Stage.name : Stage → String
  | .mk name _ _ _ => name

def Stage.arguments : Stage → List Expr
  | .mk _ arguments _ _ => arguments

/-- A whole expression: its root and the filters that the value runs through. -/
structure Pipeline where
  root : Expr
  stages : List Stage
deriving Repr, Inhabited

/-- The expression that a pipeline is inside another one: without stages, its root. -/
def Pipeline.toExpr (pipeline : Pipeline) : Expr :=
  match pipeline.stages with
  | [] => pipeline.root
  | stage :: stages => .pipeline pipeline.root (stage :: stages)

/-- How a path is written in messages: index expressions are left out. -/
def Segment.shown : Segment → String
  | .property name => name
  | .index _ => "[...]"

def dottedPath (head : String) (segments : List Segment) : String :=
  ".".intercalate (head :: segments.map Segment.shown)

end Folio.Template
