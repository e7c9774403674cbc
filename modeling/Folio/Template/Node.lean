import Folio.Template.Parse
import Folio.Template.Piece

/-!
Contract: a template as a row of nodes.

Owns: literal and expression nodes, joining neighbouring literals, and reading a whole template. A
template is cut into pieces to its end before any of its expressions is read.
-/

namespace Folio.Template

open Folio.Text

/-- An expression keeps its source without the blanks around it, and the place behind its delimiter. -/
inductive Node where
  | literal (text : String)
  | expression (pipeline : Pipeline) (source : String) (line column : Int)
deriving Repr, Inhabited

/-- Puts a literal in front; two literals become one. -/
def prependLiteral (text : String) : List Node → List Node
  | .literal next :: nodes => .literal (text ++ next) :: nodes
  | nodes => .literal text :: nodes

/-- Reads the expression that a token holds. -/
def Node.ofExpression (token : Token) : Except Fault Node :=
  match Pipeline.readAt token.place token.value with
  | .ok pipeline =>
      .ok (.expression pipeline (stripText token.value) token.place.line token.place.column)
  | .error fault => .error fault

/-- The nodes of a row of tokens, up to a finish token or the end of the row. -/
def nodesOfTokens : List Token → Except Fault (List Node)
  | [] => .ok []
  | token :: tokens =>
      match token.kind with
      | .text => do return prependLiteral token.value (← nodesOfTokens tokens)
      | .expression => do
          let node ← Node.ofExpression token
          let nodes ← nodesOfTokens tokens
          return node :: nodes
      | .finish => .ok []
      | kind => .error (.malformed (.of (.unexpectedKind kind) token.place))

def parseTemplate (text : String) : Except Fault (List Node) :=
  match templateTokens text with
  | .ok tokens => nodesOfTokens tokens
  | .error error => .error (.malformed error)

end Folio.Template
