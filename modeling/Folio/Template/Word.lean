import Folio.Template.SyntaxError
import Folio.Text.Blank
import Folio.Text.Digit

/-!
Contract: the words of an expression.

Owns: strings with their escapes, numbers, names and punctuation, each recognised at the front of the
remaining characters, and the tokens of a whole expression.
Does not own: the order in which words make sense.

A number is a longest match that no name follows at once; where one would, the last digit is given up,
and without a digit to give up there is no number. A number may start with a point only where no value
has just ended, so that `rows.0` reads a property.
-/

namespace Folio.Template

open Folio.Text

/-! ## Names and numbers -/

def startsName (char : Char) : Bool :=
  ('A' ≤ char && char ≤ 'Z') || ('a' ≤ char && char ≤ 'z') || char = '_' || char = '$'

def continuesName (char : Char) : Bool :=
  startsName char || ('0' ≤ char && char ≤ '9')

def nameFollows : List Char → Bool
  | [] => false
  | char :: _ => startsName char

/-- A row of digits as far as it may stand before `rest`. -/
def settleDigits (digits rest : List Char) : Option (List Char) :=
  let settled := if nameFollows rest then digits.dropLast else digits
  if settled.isEmpty then none else some settled

/-- A point and the digits behind it. -/
def fractionSpan : List Char → Option (List Char)
  | '.' :: rest =>
      (settleDigits (rest.takeWhile isDigit) (rest.dropWhile isDigit)).map ('.' :: ·)
  | _ => none

def magnitudeSpan (chars : List Char) : Option (List Char) :=
  let whole := chars.takeWhile isDigit
  let rest := chars.dropWhile isDigit
  if whole.isEmpty then fractionSpan rest
  else match fractionSpan rest with
    | some fraction => some (whole ++ fraction)
    | none => settleDigits whole rest

/-- The number in front. -/
def numberSpan : List Char → Option (List Char)
  | '-' :: rest => (magnitudeSpan rest).map ('-' :: ·)
  | chars => magnitudeSpan chars

/-- Words after which a point reads a property. -/
def endsValue : Option TokenKind → Bool
  | some .identifier => true
  | some .rightBracket => true
  | some .rightParen => true
  | _ => false

/-! ## Strings -/

/-- The characters of a string up to its quote, as they are written, and what follows the quote. -/
def spanString (quote : Char) : List Char → Option (List Char × List Char)
  | [] => none
  | '\\' :: escaped :: rest =>
      (spanString quote rest).map fun (inside, after) => ('\\' :: escaped :: inside, after)
  | char :: rest =>
      if char = quote then some ([], rest)
      else (spanString quote rest).map fun (inside, after) => (char :: inside, after)

/-- What a backslash and a character stand for: an unknown escape stands for itself. -/
def unescape (escaped : Char) : List Char :=
  if escaped = 'n' then ['\n']
  else if escaped = 't' then ['\t']
  else if escaped = 'r' then ['\r']
  else if escaped = '\\' ∨ escaped = '\'' ∨ escaped = '"' then [escaped]
  else ['\\', escaped]

def decodeString : List Char → List Char
  | [] => []
  | '\\' :: escaped :: rest => unescape escaped ++ decodeString rest
  | char :: rest => char :: decodeString rest

/-! ## Words -/

def punctuation? (char : Char) : Option TokenKind :=
  if char = '|' then some .pipe
  else if char = '.' then some .dot
  else if char = ',' then some .comma
  else if char = ':' then some .colon
  else if char = '(' then some .leftParen
  else if char = ')' then some .rightParen
  else if char = '[' then some .leftBracket
  else if char = ']' then some .rightBracket
  else if char = '{' then some .leftBrace
  else if char = '}' then some .rightBrace
  else none

/-- What stands in front: a blank, or a word that goes on for `more` behind its first character. -/
inductive Front where
  | blank
  | word (kind : TokenKind) (more : List Char) (value : List Char)
  | fault (cause : SyntaxCause)
deriving DecidableEq, Repr

/-- The number in front, unless it starts with a point that reads a property. -/
def numberInFront (previous : Option TokenKind) (char : Char) (rest : List Char) :
    Option (List Char) :=
  if char = '.' && endsValue previous then none else numberSpan (char :: rest)

def front (previous : Option TokenKind) (char : Char) (rest : List Char) : Front :=
  if isBlank char then .blank
  else if isQuote char then
    match spanString char rest with
    | some (inside, _) => .word .string (inside ++ [char]) (decodeString inside)
    | none => .fault .unterminatedString
  else match numberInFront previous char rest with
    | some number => .word .number number.tail number
    | none =>
        if startsName char then
          .word .identifier (rest.takeWhile continuesName) (char :: rest.takeWhile continuesName)
        else match punctuation? char with
          | some kind => .word kind [] [char]
          | none => .fault (.unexpectedChar char)

/-- The tokens of an expression text that starts at a place, after a word of the kind `previous`. -/
def words (previous : Option TokenKind) (place : Position) (chars : List Char) :
    Except SyntaxError (List Token) :=
  match chars with
  | [] => .ok [⟨.finish, "", place⟩]
  | char :: rest =>
      match front previous char rest with
      | .blank => words previous (place.after char) rest
      | .fault cause => .error (.of cause place)
      | .word kind more value =>
          match words (some kind) ((place.after char).past more) (rest.drop more.length) with
          | .error error => .error error
          | .ok tokens => .ok (⟨kind, String.ofList value, place⟩ :: tokens)
termination_by chars.length
decreasing_by
  · simp only [List.length_cons]
    omega
  · simp only [List.length_drop, List.length_cons]
    omega

def expressionTokens (place : Position) (text : String) : Except SyntaxError (List Token) :=
  words none place text.toList

end Folio.Template
