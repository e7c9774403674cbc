import Folio.Text.Hex

/-!
Contract: texts as JSON strings.

Owns: the escapes of a JSON string. Only quotes, backslashes and controls below the space are escaped;
every other character stands for itself.
-/

namespace Folio.Text

def jsonChar (char : Char) : List Char :=
  if char == '"' || char == '\\' then ['\\', char]
  else if char == '\n' then ['\\', 'n']
  else if char == '\r' then ['\\', 'r']
  else if char == '\t' then ['\\', 't']
  else if char.toNat == 8 then ['\\', 'b']
  else if char.toNat == 12 then ['\\', 'f']
  else if char.toNat < 0x20 then '\\' :: 'u' :: hexDigits 4 char.toNat
  else [char]

def jsonString (text : String) : String :=
  String.ofList ('"' :: text.toList.flatMap jsonChar ++ ['"'])

end Folio.Text
