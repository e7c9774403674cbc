import Folio.Fault
import Folio.Template.Expr
import Folio.Template.Word
import Folio.Text.Split

/-!
Contract: expressions from their words.

Owns: a recursive descent over a row of tokens. The grammar is

    expression := primary ("|" filter)*
    filter     := NAME ["(" [expression ("," expression)*] ")"]
    primary    := literal | path | array | object | "(" expression ")"
    path       := NAME ("." NAME | "." NUMBER | "[" expression "]")*
    array      := "[" [expression ("," expression)* [","]] "]"
    object     := "{" [entry ("," entry)* [","]] "}"
    entry      := (NAME | STRING) ":" expression | NAME

where `true`, `false` and `null` are literals, and a number behind a point names one property for each
part between its points. The descent carries the depth it may still reach; the depth given at the start
suffices for every row of tokens that ends with its finish token.
-/

namespace Folio.Template

open Folio.Text Folio.Number

/-! ## A row of tokens under a reading head -/

/-- The token under the head and those behind it. The head never moves past the last token, nor past a
finish token. -/
structure Cursor where
  current : Token
  following : List Token
deriving DecidableEq, Repr

namespace Cursor

def kind (cursor : Cursor) : TokenKind :=
  cursor.current.kind

def advance (cursor : Cursor) : Cursor :=
  if cursor.kind = .finish then cursor
  else match cursor.following with
    | [] => cursor
    | next :: rest => ⟨next, rest⟩

def fault (cursor : Cursor) (cause : SyntaxCause) : Fault :=
  .malformed (.of cause cursor.current.place)

/-- Moves past a token of the given kind, or fails at it. -/
def expect (cursor : Cursor) (kind : TokenKind) (cause : SyntaxCause) : Except Fault Cursor :=
  if cursor.kind = kind then .ok cursor.advance else .error (cursor.fault cause)

end Cursor

/-! ## Words with a meaning of their own -/

def keyword? (name : String) : Option Literal :=
  if name == "true" then some (.bool true)
  else if name == "false" then some (.bool false)
  else if name == "null" then some .null
  else none

/-- A numeral with a point is a floating-point number, any other a whole number. -/
def readNumber (numeral : String) : Except Fault Literal :=
  if numeral.toList.contains '.' then
    match Binary64.read numeral with
    | .ok number => .ok (.float number)
    | .error cause => .error (.mishap (.numeral cause))
  else
    match readWhole numeral with
    | .ok number => .ok (.int number)
    | .error cause => .error (.mishap (.numeral cause))

/-- The properties that a number behind a point names, if it is not negative. -/
def numberProperties? (numeral : String) : Option (List Segment) :=
  if numeral.toList.head? == some '-' then none
  else some ((splitText '.' numeral).map .property)

def endlessNesting : Fault :=
  .mishap (.raised "RecursionError" "maximum recursion depth exceeded")

/-! ## The descent -/

mutual

def parseExpression : Nat → Cursor → Except Fault (Pipeline × Cursor)
  | 0, _ => .error endlessNesting
  | depth + 1, cursor => do
      let (root, cursor) ← parsePrimary depth cursor
      let (stages, cursor) ← parseStages depth cursor
      return (⟨root, stages⟩, cursor)

def parseStages : Nat → Cursor → Except Fault (List Stage × Cursor)
  | 0, _ => .error endlessNesting
  | depth + 1, cursor =>
      if cursor.kind = .pipe then do
        let name := cursor.advance
        let cursor ← name.expect .identifier .expectedFilterName
        let (arguments, cursor) ← parseArgumentList depth name.current.value cursor
        let (stages, cursor) ← parseStages depth cursor
        return (.mk name.current.value arguments name.current.place.line name.current.place.column
          :: stages, cursor)
      else .ok ([], cursor)

/-- The arguments of a filter in parentheses; without parentheses there are none. -/
def parseArgumentList : Nat → String → Cursor → Except Fault (List Expr × Cursor)
  | 0, _, _ => .error endlessNesting
  | depth + 1, filter, cursor =>
      if cursor.kind = .leftParen then do
        let inside := cursor.advance
        let (arguments, cursor) ←
          if inside.kind = .rightParen then .ok ([], inside) else parseArguments depth inside
        let cursor ← cursor.expect .rightParen (.expectedArgumentsEnd filter)
        return (arguments, cursor)
      else .ok ([], cursor)

def parseArguments : Nat → Cursor → Except Fault (List Expr × Cursor)
  | 0, _ => .error endlessNesting
  | depth + 1, cursor => do
      let (first, cursor) ← parseExpression depth cursor
      if cursor.kind = .comma then
        let (rest, cursor) ← parseArguments depth cursor.advance
        return (first.toExpr :: rest, cursor)
      else return ([first.toExpr], cursor)

def parsePrimary : Nat → Cursor → Except Fault (Expr × Cursor)
  | 0, _ => .error endlessNesting
  | depth + 1, cursor =>
      match cursor.kind with
      | .string => .ok (.literal (.str cursor.current.value), cursor.advance)
      | .number => do
          let number ← readNumber cursor.current.value
          return (.literal number, cursor.advance)
      | .identifier =>
          match keyword? cursor.current.value with
          | some value => .ok (.literal value, cursor.advance)
          | none => do
              let (segments, after) ← parseSegments depth cursor.advance
              return (.path cursor.current.value segments, after)
      | .leftBracket => do
          let (items, after) ← parseItems depth cursor.advance
          let after ← after.expect .rightBracket .expectedArrayEnd
          return (.array items, after)
      | .leftBrace => do
          let (entries, after) ← parseEntries depth cursor.advance
          let after ← after.expect .rightBrace .expectedObjectEnd
          return (.object entries, after)
      | .leftParen => do
          let (inner, after) ← parseExpression depth cursor.advance
          let after ← after.expect .rightParen .expectedGroupEnd
          return (inner.toExpr, after)
      | .finish => .error (cursor.fault .endOfExpression)
      | _ => .error (cursor.fault (.unexpectedToken cursor.current.value))

def parseSegments : Nat → Cursor → Except Fault (List Segment × Cursor)
  | 0, _ => .error endlessNesting
  | depth + 1, cursor =>
      match cursor.kind with
      | .dot =>
          let name := cursor.advance
          match name.kind with
          | .identifier => do
              let (segments, after) ← parseSegments depth name.advance
              return (.property name.current.value :: segments, after)
          | .number =>
              match numberProperties? name.current.value with
              | some properties => do
                  let (segments, after) ← parseSegments depth name.advance
                  return (properties ++ segments, after)
              | none => .error (name.fault .expectedProperty)
          | _ => .error (name.fault .expectedProperty)
      | .leftBracket => do
          let (key, after) ← parseExpression depth cursor.advance
          let after ← after.expect .rightBracket .expectedIndexEnd
          let (segments, after) ← parseSegments depth after
          return (.index key.toExpr :: segments, after)
      | _ => .ok ([], cursor)

/-- The items of an array up to its closing bracket; a comma may stand before it. -/
def parseItems : Nat → Cursor → Except Fault (List Expr × Cursor)
  | 0, _ => .error endlessNesting
  | depth + 1, cursor =>
      if cursor.kind = .rightBracket then .ok ([], cursor)
      else do
        let (first, cursor) ← parseExpression depth cursor
        if cursor.kind = .comma then
          let (rest, cursor) ← parseItems depth cursor.advance
          return (first.toExpr :: rest, cursor)
        else return ([first.toExpr], cursor)

/-- The entries of an object up to its closing brace; a comma may stand before it. -/
def parseEntries : Nat → Cursor → Except Fault (List (String × Expr) × Cursor)
  | 0, _ => .error endlessNesting
  | depth + 1, cursor =>
      if cursor.kind = .rightBrace then .ok ([], cursor)
      else do
        let (entry, cursor) ← parseEntry depth cursor
        if cursor.kind = .comma then
          let (rest, cursor) ← parseEntries depth cursor.advance
          return (entry :: rest, cursor)
        else return ([entry], cursor)

/-- A key with its value, or a name alone, which stands for the path of that name. -/
def parseEntry : Nat → Cursor → Except Fault ((String × Expr) × Cursor)
  | 0, _ => .error endlessNesting
  | depth + 1, cursor =>
      if cursor.kind = .identifier ∨ cursor.kind = .string then
        let key := cursor.current.value
        let after := cursor.advance
        if after.kind = .colon then do
          let (value, after) ← parseExpression depth after.advance
          return ((key, value.toExpr), after)
        else if cursor.kind = .identifier then .ok ((key, .path key []), after)
        else .error (after.fault .expectedColon)
      else .error (cursor.fault .expectedKey)

end

/-- A depth that no row of so many tokens with a finish token exhausts. -/
def sufficientDepth (tokens : Nat) : Nat :=
  4 * tokens + 4

/-- The expression that a row of tokens spells, up to its finish token. -/
def Pipeline.ofTokens : List Token → Except Fault Pipeline
  | [] => .error (.mishap (.raised "IndexError" "list index out of range"))
  | first :: rest =>
      let cursor : Cursor := ⟨first, rest⟩
      if cursor.kind = .finish then .error (cursor.fault .emptyExpression)
      else do
        let (pipeline, after) ← parseExpression (sufficientDepth (rest.length + 1)) cursor
        if after.kind = .finish then return pipeline
        else throw (after.fault (.unexpectedToken after.current.value))

/-- Reads an expression text that starts at a place. -/
def Pipeline.readAt (place : Position) (text : String) : Except Fault Pipeline :=
  match expressionTokens place text with
  | .ok tokens => Pipeline.ofTokens tokens
  | .error error => .error (.malformed error)

def parseExpressionText (text : String) : Except Fault Pipeline :=
  Pipeline.readAt .start text

end Folio.Template
