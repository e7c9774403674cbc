import Folio.Number.Numeral

/-!
Contract: binary floating-point numbers of sixty-four bits, as exact values.

Owns: the type, rounding of an exact ratio to the nearest such number, reading a decimal numeral, and
the comparison with whole numbers. A finite number is `significand * 2 ^ exponent` with the significand
below `2 ^ 53`; it is the largest possible one unless the exponent is the least, so that equal numbers
are equal values, the two zeros apart. An undefined number is the constant, which is the same one wherever it stands,
or one of its own.
Does not own: the decimal text of a number.
-/

namespace Folio.Number

open Folio.Text

inductive Binary64 where
  | finite (negative : Bool) (significand : Nat) (exponent : Int)
  | infinite (negative : Bool)
  | undefined (isConstant : Bool)
deriving DecidableEq, Repr

/-- A ratio times a power of two, as a ratio. -/
def scaleRatio (numerator denominator : Nat) : Int → Nat × Nat
  | .ofNat power => (numerator * Nat.pow 2 power, denominator)
  | .negSucc power => (numerator, denominator * Nat.pow 2 (power + 1))

/-- The nearest whole number to a ratio; a tie goes to the even one. -/
def roundRatio (numerator denominator : Nat) : Nat :=
  let quotient := numerator / denominator
  let twice := 2 * (numerator % denominator)
  if twice < denominator ∨ (twice = denominator ∧ quotient % 2 = 0) then quotient else quotient + 1

namespace Binary64

def leastExponent : Int := -1074
def greatestExponent : Int := 971

def nought (negative : Bool) : Binary64 :=
  .finite negative 0 leastExponent

/-- The exponent at which a positive ratio has a significand of fifty-three bits. -/
def exponentOf (numerator denominator : Nat) : Int :=
  let guess : Int := (Nat.log2 numerator : Int) - (Nat.log2 denominator : Int) - 53
  let (top, bottom) := scaleRatio numerator denominator (-guess)
  if Nat.pow 2 53 ≤ top / bottom then guess + 1 else guess

/-- The number nearest to a ratio; ties go to the even significand, and what is too large is infinite. -/
def nearest (negative : Bool) (numerator denominator : Nat) : Binary64 :=
  if numerator = 0 then nought negative
  else
    let exponent := max (exponentOf numerator denominator) leastExponent
    let (top, bottom) := scaleRatio numerator denominator (-exponent)
    let significand := roundRatio top bottom
    let (significand, exponent) :=
      if significand = Nat.pow 2 53 then (Nat.pow 2 52, exponent + 1) else (significand, exponent)
    if greatestExponent < exponent then .infinite negative
    else .finite negative significand exponent

/-- The number nearest to `digits * 10 ^ power`. Far beyond the range the power is not computed. -/
def ofDecimal (negative : Bool) (digits : Nat) (power : Int) : Binary64 :=
  let places : Int := (naturalDigits digits).length + power
  if digits = 0 then nought negative
  else if 310 < places then .infinite negative
  else if places < -330 then nought negative
  else match power with
    | .ofNat power => nearest negative (digits * Nat.pow 10 power) 1
    | .negSucc power => nearest negative digits (Nat.pow 10 (power + 1))

/-- The exact value as a signed numerator over a denominator. -/
def ratio? : Binary64 → Option (Int × Nat)
  | .finite negative significand exponent =>
      let (numerator, denominator) := scaleRatio significand 1 exponent
      some (withSign negative numerator, denominator)
  | .infinite _ => none
  | .undefined _ => none

/-- The whole number that a number equals. -/
def whole? (number : Binary64) : Option Int :=
  match number.ratio? with
  | some (numerator, denominator) =>
      if numerator % denominator = 0 then some (numerator / denominator) else none
  | none => none

/-- Equality of values: both zeros are equal. Of the undefined numbers, only the constant equals itself. -/
def same (left right : Binary64) : Bool :=
  match left.ratio?, right.ratio? with
  | some (a, b), some (c, d) => a * d == c * b
  | none, none =>
      match left, right with
      | .infinite x, .infinite y => x == y
      | .undefined x, .undefined y => x && y
      | _, _ => false
  | _, _ => false

def negate : Binary64 → Binary64
  | .finite negative significand exponent => .finite (!negative) significand exponent
  | .infinite negative => .infinite (!negative)
  | .undefined _ => .undefined false

/-! ## Reading -/

/-- The part of a numeral from its `e`: none, or a signed row of digits and nothing else. -/
def readPower : List Char → Option Int
  | [] => some 0
  | mark :: rest =>
      if mark == 'e' || mark == 'E' then
        let (negative, chars) := splitSign rest
        match digitRun chars with
        | (digit :: digits, []) => some (withSign negative (ofDigitValues (digit :: digits)))
        | _ => none
      else none

def readMagnitude (negative : Bool) (chars : List Char) : Option Binary64 :=
  let (before, rest) := digitRun chars
  let (after, rest) :=
    match rest with
    | '.' :: tail => digitRun tail
    | _ => ([], rest)
  if before.isEmpty && after.isEmpty then none
  else (readPower rest).map fun power =>
    ofDecimal negative (ofDigitValues (before ++ after)) (power - after.length)

def infinityNames : List String := ["inf", "infinity"]

/-- Reads a decimal numeral with blanks around it, or one of the names of the special numbers. -/
def read (text : String) : Except NumeralError Binary64 :=
  let (negative, chars) := splitSign (trimNumeral text.toList)
  let name := String.ofList (chars.map Char.toLower)
  if infinityNames.contains name then .ok (.infinite negative)
  else if name == "nan" then .ok (.undefined false)
  else match readMagnitude negative chars with
    | some number => .ok number
    | none => .error (.notReal text)

end Binary64

end Folio.Number
