import Folio.Number.Binary64
import Folio.Text.Hex
import Folio.Text.LetterCase
import Folio.Text.Quoted
import Folio.Value.Basic
import Folio.Yaml.LoadError
import Folio.Yaml.Place

/-!
Contract: the values of scalars.

Owns: which plain scalars are null, truth values, numbers, dates and times, and what they denote, also where a
tag says so; every other scalar is its own text. Dates, times and numerals that look right may still denote
nothing.

A numeral may hold low lines, which count for nothing. A decimal numeral may start with noughts.
-/

namespace Folio.Yaml

open Folio.Text Folio.Number

/-! ## Names -/

def nullNames : List String := ["", "~", "null", "Null", "NULL"]

def trueNames : List String := ["true", "True", "TRUE"]

def falseNames : List String := ["false", "False", "FALSE"]

def infinityNames : List String := [".inf", ".Inf", ".INF"]

def undefinedNames : List String := [".nan", ".NaN", ".NAN"]

/-- Words that only stand for operations on mappings. -/
def reservedNames : List String := ["<<", "="]

/-! ## Numerals -/

def isGapDigit (char : Char) : Bool :=
  isAsciiDigit char || char = '_'

def withoutGaps (chars : List Char) : List Char :=
  chars.filter (· ≠ '_')

def hasSign (chars : List Char) : Bool :=
  chars.head? == some '-' || chars.head? == some '+'

/-- An exponent to the end of the numeral. -/
def isExponent (needsSign : Bool) : List Char → Bool
  | [] => false
  | mark :: rest =>
      let digits := (splitSign rest).2
      (mark = 'e' || mark = 'E') && (!needsSign || hasSign rest) && !digits.isEmpty &&
        digits.all isAsciiDigit

/-- A numeral with a point or an exponent, behind its sign. Behind a leading point an exponent has a
sign. -/
def isRealMagnitude (chars : List Char) : Bool :=
  match chars with
  | [] => false
  | '.' :: rest =>
      let after := rest.dropWhile isGapDigit
      !(rest.takeWhile isGapDigit).isEmpty && (after.isEmpty || isExponent true after)
  | first :: rest =>
      isAsciiDigit first &&
        (match rest.dropWhile isGapDigit with
        | '.' :: fraction =>
            let after := fraction.dropWhile isGapDigit
            after.isEmpty || isExponent false after
        | after => isExponent false after)

def realValue (negative : Bool) (chars : List Char) : Except LoadError Value :=
  match Binary64.read (String.ofList ((withoutGaps chars).map Char.toLower)) with
  | .ok number => .ok (.float (if negative then number.negate else number))
  | .error cause => .error (.mishap (.numeral cause))

/-- A base with its letter and its digits. -/
structure Base where
  letter : Char
  base : Nat
deriving DecidableEq, Repr

def bases : List Base := [⟨'b', 2⟩, ⟨'o', 8⟩, ⟨'x', 16⟩]

def Base.hasDigit (base : Base) (char : Char) : Bool :=
  match hexValue? char with
  | some digit => digit < base.base
  | none => false

def Base.isMagnitude (base : Base) (chars : List Char) : Bool :=
  match chars with
  | '0' :: letter :: digits =>
      letter = base.letter && !digits.isEmpty &&
        digits.all fun char => char = '_' || base.hasDigit char
  | _ => false

def Base.number (base : Base) (digits : List Char) : Nat :=
  digits.foldl (fun number char => base.base * number + (hexValue? char).getD 0) 0

/-- The number of a numeral in a base; without digits of the base it denotes none. -/
def Base.value (base : Base) (negative : Bool) (chars : List Char) : Except LoadError Value :=
  let digits := withoutGaps (chars.drop 2)
  if !digits.isEmpty && digits.all base.hasDigit then
    .ok (.int (withSign negative (base.number digits)))
  else
    .error (.mishap (.raised "ValueError"
      ("invalid literal for int() with base " ++ wholeText base.base ++ ": " ++
        quoted (String.ofList digits))))

def decimalValue (negative : Bool) (chars : List Char) : Except LoadError Value :=
  match readWhole (String.ofList (withoutGaps chars)) with
  | .ok number => .ok (.int (if negative then -number else number))
  | .error cause => .error (.mishap (.numeral cause))

/-- The number that a plain scalar denotes, if it is a numeral. -/
def numeralValue? (chars : List Char) : Option (Except LoadError Value) :=
  let (negative, magnitude) := splitSign chars
  let startsNumeral := hasSign chars || chars.head?.any isAsciiDigit
  if infinityNames.contains (String.ofList magnitude) then
    some (.ok (.float (.infinite negative)))
  else if undefinedNames.contains (String.ofList chars) then some (.ok (.float (.undefined true)))
  else if isRealMagnitude magnitude then some (realValue negative magnitude)
  else if !startsNumeral then none
  else match bases.find? fun base => base.isMagnitude magnitude with
    | some base => some (base.value negative magnitude)
    | none =>
        if !magnitude.isEmpty && magnitude.all isGapDigit then some (decimalValue negative magnitude)
        else none

/-! ## Dates and times -/

/-- The number of a row of digits that is as long as one of the widths, and what follows. -/
def takeDigits? (least most : Nat) (chars : List Char) : Option (Nat × List Char) :=
  let digits := (chars.take most).takeWhile isAsciiDigit
  if digits.length < least then none
  else (digitsValue? 0 digits).map fun number => (number, chars.drop digits.length)

def dropMark? (mark : Char) : List Char → Option (List Char)
  | [] => none
  | char :: rest => if char = mark then some rest else none

/-- Year, month and day, and what follows. -/
def takeDate? (least : Nat) (chars : List Char) : Option ((Nat × Nat × Nat) × List Char) := do
  let (year, rest) ← takeDigits? 4 4 chars
  let (month, rest) ← takeDigits? least 2 (← dropMark? '-' rest)
  let (day, rest) ← takeDigits? least 2 (← dropMark? '-' rest)
  return ((year, month, day), rest)

/-- What parts a date from a time: a letter, or blanks. -/
def dropDivider? : List Char → Option (List Char)
  | [] => none
  | char :: rest =>
      if char = 'T' || char = 't' then some rest
      else if char = ' ' || char = '\t' then
        some (rest.dropWhile fun char => char = ' ' || char = '\t')
      else none

/-- Six places of a fraction of a second, rounded by the seventh. -/
def microseconds (digits : List Char) : Nat :=
  let places := (digitsValue? 0 (digits.take 6 ++ List.replicate (6 - digits.length) '0')).getD 0
  if ((digits.drop 6).head?.bind digitValue?).any (4 < ·) then places + 1 else places

def fractionOf? : List Char → Option Nat
  | [] => some 0
  | '.' :: digits => if digits.all isAsciiDigit then some (microseconds digits) else none
  | _ => none

/-- Hours, minutes, seconds and microseconds to the end of the text. -/
def takeTime? (chars : List Char) : Option (Nat × Nat × Nat × Nat) := do
  let (hour, rest) ← takeDigits? 1 2 chars
  let (minute, rest) ← takeDigits? 2 2 (← dropMark? ':' rest)
  let (second, rest) ← takeDigits? 2 2 (← dropMark? ':' rest)
  return (hour, minute, second, ← fractionOf? rest)

/-- The moment of these numbers. A fraction that was rounded up to a whole second counts for the next one. -/
def momentValue (year month day hour minute second microsecond : Nat) : Except LoadError Value :=
  let whole := 1000000
  match Moment.of year month day hour minute second (microsecond % whole) with
  | .error cause => .error (.mishap (.calendar cause))
  | .ok moment =>
      match if microsecond < whole then some moment else moment.next? with
      | some moment => .ok (.moment moment)
      | none => .error (.mishap (.raised "OverflowError" "date value out of range"))

/-- A date alone has two digits for month and day; before a time one digit is enough. -/
def calendarValue? (chars : List Char) : Option (Except LoadError Value) :=
  match takeDate? 2 chars with
  | some ((year, month, day), []) =>
      some (((Date.of year month day).map .date).mapError fun cause => .mishap (.calendar cause))
  | _ => do
      let ((year, month, day), rest) ← takeDate? 1 chars
      let (hour, minute, second, microsecond) ← takeTime? (← dropDivider? rest)
      return momentValue year month day hour minute second microsecond

/-! ## Plain scalars -/

def plainValue (text : String) : Except LoadError Value :=
  if nullNames.contains text then .ok .null
  else if trueNames.contains text then .ok (.bool true)
  else if falseNames.contains text then .ok (.bool false)
  else if reservedNames.contains text then .error .malformed
  else match numeralValue? text.toList with
    | some value => value
    | none =>
        match calendarValue? text.toList with
        | some value => value
        | none => .ok (.str text)

/-! ## Scalars with a tag -/

/-- A numeral with a tag has a first character. -/
def missingNumeral : Except LoadError Value :=
  .error (.mishap (.raised "IndexError" "string index out of range"))

def taggedWhole (text : String) : Except LoadError Value :=
  let chars := withoutGaps text.toList
  let (negative, magnitude) := splitSign chars
  if chars.isEmpty then missingNumeral
  else match bases.find? fun base => ['0', base.letter].isPrefixOf magnitude with
    | some base => base.value negative magnitude
    | none => decimalValue negative magnitude

def taggedReal (text : String) : Except LoadError Value :=
  let chars := (withoutGaps text.toList).map Char.toLower
  let (negative, magnitude) := splitSign chars
  if chars.isEmpty then missingNumeral
  else if infinityNames.contains (String.ofList magnitude) then .ok (.float (.infinite negative))
  else if undefinedNames.contains (String.ofList magnitude) then .ok (.float (.undefined true))
  else realValue negative magnitude

/-- With a tag more words are truth values, in any case of letters. -/
def truthWords : List (String × Bool) :=
  [("yes", true), ("no", false), ("y", true), ("n", false), ("true", true), ("false", false),
    ("on", true), ("off", false)]

def taggedTruth (text : String) : Except LoadError Value :=
  match truthWords.lookup (lower text) with
  | some flag => .ok (.bool flag)
  | none => .error (.mishap (.raised "KeyError" (quoted (lower text))))

/-- The value of a scalar with a tag. Other tags than these are not known. -/
def taggedValue (tag text : String) : Except LoadError Value :=
  if tag == "!str" then .ok (.str text)
  else if tag == "!null" then .ok .null
  else if tag == "!bool" then taggedTruth text
  else if tag == "!int" then taggedWhole text
  else if tag == "!float" then taggedReal text
  else if tag == "!timestamp" then (calendarValue? text.toList).getD malformed
  else malformed

def scalarValue (text : String) (isPlain : Bool) (tag : Option String) : Except LoadError Value :=
  match tag with
  | some tag => taggedValue tag text
  | none => if isPlain then plainValue text else .ok (.str text)

end Folio.Yaml
