import Folio.Template.Node

/-!
Contract: what a template mentions, known without rendering it.

Owns: the names of the filters of a template, and the inline templates that it hands to a filter as
string literals, both in order of appearance and each once.
-/

namespace Folio.Template

/-! ## Filters -/

mutual

def Expr.filters : Expr → List String
  | .literal _ => []
  | .path _ segments => segmentFilters segments
  | .array items => exprFilters items
  | .object entries => entryFilters entries
  | .pipeline root stages => root.filters ++ stageFilters stages

def exprFilters : List Expr → List String
  | [] => []
  | expr :: exprs => expr.filters ++ exprFilters exprs

def entryFilters : List (String × Expr) → List String
  | [] => []
  | (_, value) :: entries => value.filters ++ entryFilters entries

def segmentFilters : List Segment → List String
  | [] => []
  | .property _ :: segments => segmentFilters segments
  | .index key :: segments => key.filters ++ segmentFilters segments

def stageFilters : List Stage → List String
  | [] => []
  | .mk name arguments _ _ :: stages => name :: exprFilters arguments ++ stageFilters stages

end

def Node.filters : Node → List String
  | .literal _ => []
  | .expression pipeline _ _ _ => pipeline.root.filters ++ stageFilters pipeline.stages

def filterNames (nodes : List Node) : List String :=
  (nodes.flatMap Node.filters).eraseDups

/-! ## Inline templates -/

/-- The literal text that a pipeline hands to the filter `name` as its first stage. -/
def handedText (name : String) (root : Expr) (stages : List Stage) : List String :=
  match root, stages with
  | .literal (.str text), stage :: _ => if stage.name == name then [text] else []
  | _, _ => []

mutual

def Expr.inlineTexts (filter : String) : Expr → List String
  | .literal _ => []
  | .path _ segments => segmentInlineTexts filter segments
  | .array items => exprInlineTexts filter items
  | .object entries => entryInlineTexts filter entries
  | .pipeline root stages =>
      handedText filter root stages ++ root.inlineTexts filter ++ stageInlineTexts filter stages

def exprInlineTexts (filter : String) : List Expr → List String
  | [] => []
  | expr :: exprs => expr.inlineTexts filter ++ exprInlineTexts filter exprs

def entryInlineTexts (filter : String) : List (String × Expr) → List String
  | [] => []
  | (_, value) :: entries => value.inlineTexts filter ++ entryInlineTexts filter entries

def segmentInlineTexts (filter : String) : List Segment → List String
  | [] => []
  | .property _ :: segments => segmentInlineTexts filter segments
  | .index key :: segments => key.inlineTexts filter ++ segmentInlineTexts filter segments

def stageInlineTexts (filter : String) : List Stage → List String
  | [] => []
  | .mk _ arguments _ _ :: stages =>
      exprInlineTexts filter arguments ++ stageInlineTexts filter stages

end

def Node.inlineTexts (filter : String) : Node → List String
  | .literal _ => []
  | .expression pipeline _ _ _ =>
      handedText filter pipeline.root pipeline.stages ++ pipeline.root.inlineTexts filter ++
        stageInlineTexts filter pipeline.stages

/-- The filter that repeats an inline template. -/
def repeatingFilter : String := "forEach"

def inlineTemplates (nodes : List Node) (filter : String) : List String :=
  (nodes.flatMap (Node.inlineTexts filter)).eraseDups

end Folio.Template
