import Folio.Template.Token

/-!
Contract: what is malformed in a page and where.

Owns: one constructor per cause with its wording, the place and page of an error, and moving an error
to the page whose text it was found in.
-/

namespace Folio.Template

open Folio.Text Folio.Number

inductive SyntaxCause where
  | unclosedExpression
  | unterminatedInExpression
  | unterminatedString
  | unexpectedChar (char : Char)
  | emptyExpression
  | endOfExpression
  | unexpectedToken (value : String)
  | unexpectedKind (kind : TokenKind)
  | expectedFilterName
  | expectedArgumentsEnd (filter : String)
  | expectedGroupEnd
  | expectedProperty
  | expectedIndexEnd
  | expectedArrayEnd
  | expectedKey
  | expectedColon
  | expectedObjectEnd
  | invalidFrontMatter
  | frontMatterNotMapping
deriving DecidableEq, Repr

def SyntaxCause.message : SyntaxCause → String
  | .unclosedExpression => "Unclosed '\x7b\x7b'"
  | .unterminatedInExpression => "Unterminated string literal in expression opened"
  | .unterminatedString => "Unterminated string literal"
  | .unexpectedChar char => "Unexpected character in expression: " ++ quoted char.toString
  | .emptyExpression => "Empty expression"
  | .endOfExpression => "Unexpected end of expression"
  | .unexpectedToken value => "Unexpected token '" ++ value ++ "'"
  | .unexpectedKind kind => "Unexpected token " ++ kind.name
  | .expectedFilterName => "Expected filter name after '|'"
  | .expectedArgumentsEnd filter => "Expected ')' after arguments of '" ++ filter ++ "'"
  | .expectedGroupEnd => "Expected ')' after grouped expression"
  | .expectedProperty => "Expected property name after '.'"
  | .expectedIndexEnd => "Expected ']' after index expression"
  | .expectedArrayEnd => "Expected ']' to close array literal"
  | .expectedKey => "Expected property name in object literal"
  | .expectedColon => "Expected ':' after property name"
  | .expectedObjectEnd => "Expected '\x7d' to close object literal"
  | .invalidFrontMatter => "Invalid frontmatter"
  | .frontMatterNotMapping => "Frontmatter must be a mapping"

structure SyntaxError where
  cause : SyntaxCause
  place : Position
  page : Option String
deriving DecidableEq, Repr

namespace SyntaxError

/-- An error in a text whose page is not known. -/
def of (cause : SyntaxCause) (place : Position) : SyntaxError :=
  ⟨cause, place, none⟩

/-- An unknown page and one without a name are left out. -/
def message (error : SyntaxError) : String :=
  let spot := wholeText error.place.line ++ ":" ++ wholeText error.place.column
  error.cause.message ++ " at " ++
    (match error.page with
    | none => spot
    | some page => if page == "" then spot else page ++ ":" ++ spot)

/-- The same error in the page whose text started so many lines and characters earlier. -/
def inPage (error : SyntaxError) (page : String) (lines offset : Int) : SyntaxError :=
  ⟨error.cause, ⟨error.place.offset + offset, error.place.line + lines, error.place.column⟩,
    some page⟩

end SyntaxError

end Folio.Template
