import Folio.Text.Ranges

/-!
Contract: blank characters and what is left of a text without them at its ends.

Owns: the class of blanks (the white space of Unicode and the four separators U+001C to U+001F) and
stripping a text of them on either side.
-/

namespace Folio.Text

def blanks : Ranges :=
  [(0x9, 0xd), (0x1c, 0x20), (0x85, 0x85), (0xa0, 0xa0), (0x1680, 0x1680),
  (0x2000, 0x200a), (0x2028, 0x2029), (0x202f, 0x202f), (0x205f, 0x205f), (0x3000, 0x3000)]

def isBlank (char : Char) : Bool :=
  blanks.has char

/-- The characters without the blanks in front. -/
def stripLeft (chars : List Char) : List Char :=
  chars.dropWhile isBlank

/-- The characters without the blanks at the end. -/
def stripRight (chars : List Char) : List Char :=
  (chars.reverse.dropWhile isBlank).reverse

def strip (chars : List Char) : List Char :=
  stripRight (stripLeft chars)

def stripText (text : String) : String :=
  String.ofList (strip text.toList)

def isBlankText (text : String) : Bool :=
  text.toList.all isBlank

end Folio.Text
