import Folio.Text.Blank
import Folio.Text.Digit

/-!
Contract: decimal numerals of whole numbers.

Owns: writing a whole number, reading one (blanks around it, a sign, decimal digits of any script, single
low lines between digits), and the limit on the length of a numeral in either direction.
-/

namespace Folio.Number

open Folio.Text

/-- Numerals with more digits than this are neither read nor written. -/
def digitLimit : Nat := 4300

inductive NumeralError where
  | notWhole (text : String)
  | notReal (text : String)
  | tooLongToRead (digits : Nat)
  | tooLongToWrite
deriving DecidableEq, Repr

/-- Puts the decimal digits of a number in front of `tail`. -/
def digitsOnto (number : Nat) (tail : List Char) : List Char :=
  if number < 10 then Char.ofNat (48 + number) :: tail
  else digitsOnto (number / 10) (Char.ofNat (48 + number % 10) :: tail)
termination_by number

def naturalDigits (number : Nat) : List Char :=
  digitsOnto number []

def wholeDigits : Int → List Char
  | .ofNat number => naturalDigits number
  | .negSucc number => '-' :: naturalDigits (number + 1)

/-- The decimal numeral of a whole number, whatever its length. -/
def wholeText (number : Int) : String :=
  String.ofList (wholeDigits number)

/-- The decimal numeral of a whole number, if its digits are within the limit. -/
def writeWhole (number : Int) : Except NumeralError String :=
  if digitLimit < (naturalDigits number.natAbs).length then .error .tooLongToWrite
  else .ok (wholeText number)

/-- Splits a sign from the characters behind it; `true` is minus. -/
def splitSign : List Char → Bool × List Char
  | '-' :: rest => (true, rest)
  | '+' :: rest => (false, rest)
  | chars => (false, chars)

/-- The digits in front, with single low lines between them left out, and what follows. -/
def digitRun : List Char → List Nat × List Char
  | [] => ([], [])
  | [char] =>
      match digitValue? char with
      | some digit => ([digit], [])
      | none => ([], [char])
  | char :: next :: rest =>
      match digitValue? char with
      | none => ([], char :: next :: rest)
      | some digit =>
          if next == '_' then
            match digitRun rest with
            | ([], _) => ([digit], next :: rest)
            | (digits, after) => (digit :: digits, after)
          else
            let (digits, after) := digitRun (next :: rest)
            (digit :: digits, after)

/-- A blank that may stand around a numeral: any but the four separators U+001C to U+001F. -/
def isNumeralBlank (char : Char) : Bool :=
  isBlank char && !('\x1c' ≤ char && char ≤ '\x1f')

/-- The characters of a numeral without the blanks around it. -/
def trimNumeral (chars : List Char) : List Char :=
  ((chars.dropWhile isNumeralBlank).reverse.dropWhile isNumeralBlank).reverse

def ofDigitValues (digits : List Nat) : Nat :=
  digits.foldl (fun number digit => 10 * number + digit) 0

def withSign (negative : Bool) (magnitude : Nat) : Int :=
  if negative then -(magnitude : Int) else magnitude

/-- A numeral that is too long is refused for its length even if other characters follow its digits. -/
def readWhole (text : String) : Except NumeralError Int :=
  let (negative, chars) := splitSign (trimNumeral text.toList)
  let (digits, after) := digitRun chars
  if digits.isEmpty || after.head? == some '_' then .error (.notWhole text)
  else if digitLimit < digits.length then .error (.tooLongToRead digits.length)
  else if after.isEmpty then .ok (withSign negative (ofDigitValues digits))
  else .error (.notWhole text)

end Folio.Number
