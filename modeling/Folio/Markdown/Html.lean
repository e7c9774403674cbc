import Folio.Text.Hex

/-!
Contract: texts and elements of HTML.

Owns: escaping texts, code and attributes, and elements as texts. A character reference that is written out
in a text is kept as it is.
-/

namespace Folio.Markdown

open Folio.Text

def isLetter (char : Char) : Bool :=
  ('a' ≤ char && char ≤ 'z') || ('A' ≤ char && char ≤ 'Z')

def isLetterOrDigit (char : Char) : Bool :=
  isLetter char || ('0' ≤ char && char ≤ '9')

/-- A row of characters of a class, not empty, with a semicolon behind it. -/
def isClosedRow (isMember : Char → Bool) (chars : List Char) : Bool :=
  !(chars.takeWhile isMember).isEmpty && (chars.dropWhile isMember).head? == some ';'

/-- What stands behind an ampersand that starts a character reference. -/
def isReference (chars : List Char) : Bool :=
  match chars with
  | '#' :: 'x' :: rest => isClosedRow (fun char => (hexValue? char).isSome) rest
  | '#' :: 'X' :: rest => isClosedRow (fun char => (hexValue? char).isSome) rest
  | '#' :: rest => isClosedRow (fun char => '0' ≤ char && char ≤ '9') rest
  | rest => isClosedRow isLetterOrDigit rest

def escapeAngle (char : Char) : List Char :=
  if char = '<' then "&lt;".toList else if char = '>' then "&gt;".toList else [char]

def escapeText : List Char → List Char
  | [] => []
  | char :: rest =>
      (if char = '&' then if isReference rest then ['&'] else "&amp;".toList else escapeAngle char) ++
        escapeText rest

def needsEscape (char : Char) : Bool :=
  char = '&' || char = '<' || char = '>'

/-- In code a character reference stands for itself, so every ampersand is escaped. -/
def escapeCode (char : Char) : List Char :=
  if char = '&' then "&amp;".toList else escapeAngle char

def escapeAttribute (chars : List Char) : List Char :=
  (escapeText chars).flatMap fun char =>
    if char = '"' then "&quot;".toList else [char]

/-- An element with what it holds, which is HTML already. -/
def element (name : String) (inside : List Char) : List Char :=
  '<' :: name.toList ++ '>' :: inside ++ '<' :: '/' :: name.toList ++ ['>']

/-- An attribute behind the name of an element. -/
def attributeHtml (name : String) (value : List Char) : List Char :=
  ' ' :: name.toList ++ '=' :: '"' :: escapeAttribute value ++ ['"']

end Folio.Markdown
