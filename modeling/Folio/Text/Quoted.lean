import Folio.Text.Hex
import Folio.Text.Printable

/-!
Contract: texts in quotes, as messages show them.

Owns: the choice of the quote, and the escapes that make every quoted text printable and readable.
-/

namespace Folio.Text

def isQuote (char : Char) : Bool :=
  char = '\'' || char = '"'

/-- A single quote, unless the text holds single quotes and no double ones. -/
def quoteFor (chars : List Char) : Char :=
  if chars.contains '\'' && !chars.contains '"' then '"' else '\''

/-- A character inside quotes: itself if it is printable and neither quote nor backslash. -/
def quotedChar (quote char : Char) : List Char :=
  if char == quote || char == '\\' then ['\\', char]
  else if char == '\n' then ['\\', 'n']
  else if char == '\r' then ['\\', 'r']
  else if char == '\t' then ['\\', 't']
  else if isPrintable char then [char]
  else if char.toNat < 0x100 then '\\' :: 'x' :: hexDigits 2 char.toNat
  else if char.toNat < 0x10000 then '\\' :: 'u' :: hexDigits 4 char.toNat
  else '\\' :: 'U' :: hexDigits 8 char.toNat

def quoted (text : String) : String :=
  let quote := quoteFor text.toList
  String.ofList (quote :: text.toList.flatMap (quotedChar quote) ++ [quote])

end Folio.Text
