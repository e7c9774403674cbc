import Folio.Number.Binary64

/-!
Contract: the decimal text of a binary floating-point number.

Owns: the fewest decimal digits that identify a number among all others of its kind (the nearest such
decimal, a tie going to the even digit), and their layout: positional from `0.0001` to below `1e16`,
with an exponent of at least two digits elsewhere.
-/

namespace Folio.Number

/-- The decimals that round to a positive number: all values between two bounds, over one denominator.
The bounds belong to it exactly when the significand is even. -/
structure RoundingRange where
  low : Nat
  value : Nat
  high : Nat
  denominator : Nat
  closed : Bool
deriving DecidableEq, Repr

/-- The bounds lie halfway to the neighbours; below a power of two the lower neighbour is nearer. -/
def RoundingRange.of (significand : Nat) (exponent : Int) : RoundingRange :=
  let gap := if significand = Nat.pow 2 52 ∧ Binary64.leastExponent < exponent then 1 else 2
  let (unit, denominator) := scaleRatio 1 1 (exponent - 2)
  ⟨(4 * significand - gap) * unit, 4 * significand * unit, (4 * significand + 2) * unit, denominator,
    significand % 2 == 0⟩

/-- `digits * 10 ^ power` lies in the range. -/
def RoundingRange.contains (range : RoundingRange) (digits : Nat) (power : Int) : Bool :=
  let (point, low, high) :=
    match power with
    | .ofNat power => (digits * Nat.pow 10 power * range.denominator, range.low, range.high)
    | .negSucc power =>
        (digits * range.denominator, range.low * Nat.pow 10 (power + 1), range.high * Nat.pow 10 (power + 1))
  if range.closed then low ≤ point && point ≤ high else low < point && point < high

/-- The value over `10 ^ power`, as a ratio. -/
def RoundingRange.over (range : RoundingRange) : Int → Nat × Nat
  | .ofNat power => (range.value, range.denominator * Nat.pow 10 power)
  | .negSucc power => (range.value * Nat.pow 10 (power + 1), range.denominator)

/-- The nearest multiple of `10 ^ power` in the range, of the two next to the value. -/
def RoundingRange.digitsAt? (range : RoundingRange) (power : Int) : Option Nat :=
  let (numerator, denominator) := range.over power
  let below := numerator / denominator
  let nearer := roundRatio numerator denominator
  let farther := if nearer = below then below + 1 else below
  [nearer, farther].find? fun digits => 0 < digits && range.contains digits power

/-- Tries the powers of ten downwards from `power`. -/
def RoundingRange.search (range : RoundingRange) (power : Int) : Nat → Nat × Int
  | 0 => (range.value / range.denominator, 0)
  | steps + 1 =>
      match range.digitsAt? power with
      | some digits => (digits, power)
      | none => range.search (power - 1) steps

/-- The fewest digits of a positive number and the power of ten that they count. -/
def shortestDigits (significand : Nat) (exponent : Int) : Nat × Int :=
  let guess : Int := ((Nat.log2 significand : Int) + exponent) * 1233 / 4096 + 2
  (RoundingRange.of significand exponent).search guess 24

/-! ## Layout -/

/-- Positional text of `0.digits * 10 ^ point`. -/
def positional (digits : List Char) (point : Int) : List Char :=
  if point ≤ 0 then '0' :: '.' :: List.replicate (-point).toNat '0' ++ digits
  else
    let place := point.toNat
    if digits.length ≤ place then
      digits ++ List.replicate (place - digits.length) '0' ++ ['.', '0']
    else digits.take place ++ '.' :: digits.drop place

/-- Text with one digit before the point and an exponent. -/
def scientific (digits : List Char) (point : Int) : List Char :=
  let power := point - 1
  let mantissa :=
    match digits with
    | first :: next :: rest => first :: '.' :: next :: rest
    | _ => digits
  let numeral := naturalDigits power.natAbs
  let padded := if numeral.length < 2 then '0' :: numeral else numeral
  mantissa ++ 'e' :: (if power < 0 then '-' else '+') :: padded

def layout (digits : List Char) (point : Int) : List Char :=
  if -4 < point ∧ point ≤ 16 then positional digits point else scientific digits point

def magnitudeText (significand : Nat) (exponent : Int) : List Char :=
  if significand = 0 then ['0', '.', '0']
  else
    let (digits, power) := shortestDigits significand exponent
    let digits := naturalDigits digits
    layout digits (digits.length + power)

/-- The text that identifies a number. -/
def Binary64.text : Binary64 → String
  | .finite negative significand exponent =>
      String.ofList ((if negative then ['-'] else []) ++ magnitudeText significand exponent)
  | .infinite negative => if negative then "-inf" else "inf"
  | .undefined _ => "nan"

end Folio.Number
