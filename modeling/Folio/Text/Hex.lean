/-!
Contract: hexadecimal numerals.

Owns: the digits of a number in base sixteen, padded to a width, and the value of such a digit.
-/

namespace Folio.Text

def hexDigit (value : Nat) : Char :=
  if value < 10 then Char.ofNat (48 + value) else Char.ofNat (87 + value)

/-- The last `width` hexadecimal digits of a number, in small letters. -/
def hexDigits : Nat → Nat → List Char
  | 0, _ => []
  | width + 1, value => hexDigits width (value / 16) ++ [hexDigit (value % 16)]

def hexValue? (char : Char) : Option Nat :=
  if '0' ≤ char ∧ char ≤ '9' then some (char.toNat - 48)
  else if 'a' ≤ char ∧ char ≤ 'f' then some (char.toNat - 87)
  else if 'A' ≤ char ∧ char ≤ 'F' then some (char.toNat - 55)
  else none

/-- The number that a row of hexadecimal digits denotes, read after the value `before`. -/
def hexNumber? (before : Nat) : List Char → Option Nat
  | [] => some before
  | char :: rest => (hexValue? char).bind fun digit => hexNumber? (16 * before + digit) rest

end Folio.Text
