import Folio.Value.Text

/-!
Contract: properties of values.

Owns: what one segment of a path finds in a value. A mapping is asked for the segment as a key and then
for its plain text; a sequence for a position, counted from the end if negative, or its length; a text
for its length; anything else for a public attribute, which is one of its parts or a method of its kind. What is not
there is `null`.
-/

namespace Folio

open Folio.Text Folio.Number

/-- Texts that are read as positions: digits behind any number of minus signs. -/
def looksLikeIndex (text : String) : Bool :=
  let digits := text.toList.dropWhile (· == '-')
  !digits.isEmpty && digits.all showsDigit

/-- The position that a segment names, if it names one. Truth values name none. -/
def Value.index? : Value → Except Mishap (Option Int)
  | .int index => .ok (some index)
  | .str text =>
      if looksLikeIndex text then
        match readWhole text with
        | .ok index => .ok (some index)
        | .error cause => .error (.numeral cause)
      else .ok none
  | _ => .ok none

/-- The item at a position; negative positions count from the end. -/
def itemAt (items : List Value) (index : Int) : Value :=
  let place := if index < 0 then index + items.length else index
  if place < 0 then .null else items.getD place.toNat .null

/-- A name that starts with a low line is private. -/
def isPublicName (name : String) : Bool :=
  match name.toList with
  | [] => false
  | first :: _ => first != '_'

/-! ## Attributes -/

def wholePart? (number : Int) (name : String) : Option Value :=
  if name == "real" || name == "numerator" then some (.int number)
  else if name == "imag" then some (.int 0)
  else if name == "denominator" then some (.int 1)
  else none

def floatPart? (number : Binary64) (name : String) : Option Value :=
  if name == "real" then some (.float number)
  else if name == "imag" then some (.float (.nought false))
  else none

def Date.part? (day : Date) (name : String) : Option Value :=
  if name == "year" then some (.int day.year)
  else if name == "month" then some (.int day.month)
  else if name == "day" then some (.int day.day)
  else if name == "min" then some (.date .least)
  else if name == "max" then some (.date .greatest)
  else if name == "resolution" then some (.duration (.ofDays 1))
  else none

/-- A moment has no zone, and is the first of its kind where clocks go back. Its day is that of its date. -/
def Moment.part? (time : Moment) (name : String) : Option Value :=
  if name == "hour" then some (.int time.hour)
  else if name == "minute" then some (.int time.minute)
  else if name == "second" then some (.int time.second)
  else if name == "microsecond" then some (.int time.microsecond)
  else if name == "tzinfo" then some .null
  else if name == "fold" then some (.int 0)
  else if name == "min" then some (.moment .least)
  else if name == "max" then some (.moment .greatest)
  else if name == "resolution" then some (.duration .oneMicrosecond)
  else time.date.part? name

def Duration.part? (span : Duration) (name : String) : Option Value :=
  if name == "days" then some (.int span.days)
  else if name == "seconds" then some (.int span.seconds)
  else if name == "microseconds" then some (.int span.microseconds)
  else if name == "min" then some (.duration .least)
  else if name == "max" then some (.duration .greatest)
  else if name == "resolution" then some (.duration .oneMicrosecond)
  else none

/-- The attribute that was set last under a name. -/
def attributeAmong? (attributes : List (String × Value)) (name : String) : Option Value :=
  attributes.reverse.lookup name

/-- The public methods of a value. An object has its attributes alone. -/
def Value.methodNames : Value → MethodNames
  | .bool _ => .whole
  | .int _ => .whole
  | .float _ => .float
  | .date _ => .date
  | .moment _ => .moment
  | .duration _ => .duration
  | _ => .none

def Value.method? (value : Value) (name : String) : Option Value :=
  (value.methodNames.method? value.fullKindName name).map .method

/-- A part of a value under a public name. -/
def Value.part? (value : Value) (name : String) : Option Value :=
  match value with
  | .bool flag => wholePart? (if flag then 1 else 0) name
  | .int number => wholePart? number name
  | .float number => floatPart? number name
  | .date day => day.part? name
  | .moment time => time.part? name
  | .duration span => span.part? name
  | .object attributes => attributeAmong? attributes name
  | _ => none

/-- What a value has under a public name: a part or a method. -/
def Value.attribute? (value : Value) (name : String) : Option Value :=
  (value.part? name).or (value.method? name)

/-! ## Segments -/

def lengthName : String := "length"

def sequenceProperty (items : List Value) (segment : Value) : Except Mishap Value := do
  match ← segment.index? with
  | some index => return itemAt items index
  | none =>
      match segment with
      | .str name => return if name == lengthName then .int items.length else .null
      | _ => return .null

def mapProperty (entries : Entries) (segment : Value) : Except Mishap Value := do
  match segment with
  | .list _ => return .null
  | .map _ => return .null
  | _ =>
      match segment.unkeyable? with
      | some part => throw (.unkeyable part.kindName)
      | none =>
          match Entries.at? entries segment with
          | some value => return value
          | none => return (Entries.named? entries (← segment.spelled)).getD .null

def attributeProperty (value segment : Value) : Except Mishap Value := do
  let name ← segment.spelled
  return if isPublicName name then (value.attribute? name).getD .null else .null

/-- The property of a value that one segment names. -/
def Value.property (value segment : Value) : Except Mishap Value :=
  match value, segment with
  | .null, _ => .ok .null
  | _, .null => .ok .null
  | .map entries, segment => mapProperty entries segment
  | .list items, segment => sequenceProperty items segment
  | .tuple items, segment => sequenceProperty items segment
  | .str text, .str name => .ok (if name == lengthName then .int text.length else .null)
  | .str _, _ => .ok .null
  | value, segment => attributeProperty value segment

end Folio
