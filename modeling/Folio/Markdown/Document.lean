import Folio.Markdown.Element
import Folio.Markdown.Reading

/-!
Contract: Markdown texts as HTML.

Owns: uniform line breaks and tabs, and the HTML of a whole text.
-/

namespace Folio.Markdown

open Folio.Text

/-! ## Lines -/

/-- The two characters that no text holds. -/
def isReserved (char : Char) : Bool :=
  char = '\x02' || char = '\x03'

/-- Every break of a line becomes a line feed. -/
def unifyBreaks : List Char → List Char
  | [] => []
  | '\r' :: '\n' :: rest => '\n' :: unifyBreaks rest
  | '\r' :: rest => '\n' :: unifyBreaks rest
  | char :: rest => char :: unifyBreaks rest

/-- A tab reaches to the next column that is a multiple of four. -/
def expandTabs : Nat → List Char → List Char
  | _, [] => []
  | column, char :: rest =>
      if char = '\t' then
        let width := indentWidth - column % indentWidth
        List.replicate width ' ' ++ expandTabs (column + width) rest
      else char :: expandTabs (if char = '\n' then 0 else column + 1) rest

/-- A line of spaces alone is empty, but not the first one. -/
def emptyLines (lines : List (List Char)) : List (List Char) :=
  match lines with
  | [] => []
  | first :: rest => first :: rest.map fun line => if line.all (· = ' ') then [] else line

/-- A text with uniform lines and two line breaks at its end. -/
def uniformText (chars : List Char) : List Char :=
  let chars := unifyBreaks (chars.filter fun char => !isReserved char) ++ ['\n', '\n']
  joinWith '\n' (emptyLines (splitOn '\n' (expandTabs 0 chars)))

/-! ## Texts -/

/-- More than all chunks and lines of a text need. -/
def readingLimit (spans : List Span) : Nat :=
  4 * spans.length + 16

def readDocument (spans : List Span) : Block :=
  readChunks (readingLimit spans) .free (.empty .document) (chunksOf (linesOf spans))

/-- The HTML of a text; a blank text has none. -/
def render (text : String) : String :=
  if isBlankText text then ""
  else String.ofList (strip (readDocument (setAside (uniformText text.toList))).html)

end Folio.Markdown
