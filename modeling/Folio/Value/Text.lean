import Folio.Mishap
import Folio.Number.Shortest
import Folio.Text.Json
import Folio.Value.Basic

/-!
Contract: the texts of values.

Owns: three texts. `Value.text` is what a document shows: nothing for `null`, whole numbers without a
point, sequences joined by commas, mappings as JSON. `Value.inspected` is the unambiguous text used inside
collections, and `Value.spelled` the plain text used for keys and messages.
A text fails only where a numeral is too long or a JSON key has no text.
-/

namespace Folio

open Folio.Text Folio.Number

def writeInt (number : Int) : Except Mishap String :=
  (writeWhole number).mapError .numeral

def objectText : String := "<obj>"

/-! ## JSON -/

def floatJson : Binary64 → String
  | .infinite negative => if negative then "-Infinity" else "Infinity"
  | .undefined _ => "NaN"
  | number => number.text

/-- The text of a mapping's key, before it is quoted. -/
def Value.jsonKey : Value → Except Mishap String
  | .str text => .ok text
  | .null => .ok "null"
  | .bool value => .ok (if value then "true" else "false")
  | .int value => writeInt value
  | .float value => .ok (floatJson value)
  | other => .error (.keyWithoutText other.fullKindName)

mutual

def Value.json : Value → Except Mishap String
  | .null => .ok "null"
  | .bool value => .ok (if value then "true" else "false")
  | .int value => writeInt value
  | .float value => .ok (floatJson value)
  | .str text => .ok (jsonString text)
  | .list items => do return "[" ++ ", ".intercalate (← jsonItems items) ++ "]"
  | .tuple items => do return "[" ++ ", ".intercalate (← jsonItems items) ++ "]"
  | .map entries => do return "\x7b" ++ ", ".intercalate (← jsonEntries entries) ++ "\x7d"
  | .object _ => .ok (jsonString objectText)
  | .date day => .ok (jsonString day.text)
  | .moment time => .ok (jsonString time.text)
  | .duration span => .ok (jsonString span.text)
  | .method taken => .ok (jsonString taken.text)

def Value.jsonItems : List Value → Except Mishap (List String)
  | [] => .ok []
  | item :: items => do
      let first ← item.json
      let rest ← jsonItems items
      return first :: rest

def Value.jsonEntries : List (Value × Value) → Except Mishap (List String)
  | [] => .ok []
  | (key, value) :: entries => do
      let name ← key.jsonKey
      let text ← value.json
      let rest ← jsonEntries entries
      return (jsonString name ++ ": " ++ text) :: rest

end

/-! ## Documents -/

mutual

def Value.text : Value → Except Mishap String
  | .null => .ok ""
  | .bool value => .ok (if value then "true" else "false")
  | .int value => writeInt value
  | .float value =>
      match value.whole? with
      | some whole => .ok (wholeText whole)
      | none => .ok value.text
  | .str text => .ok text
  | .list items => do return ",".intercalate (← texts items)
  | .tuple items => do return ",".intercalate (← texts items)
  | .map entries => (Value.map entries).json
  | .object _ => .ok objectText
  | .date day => .ok day.text
  | .moment time => .ok time.text
  | .duration span => .ok span.text
  | .method taken => .ok taken.text

def Value.texts : List Value → Except Mishap (List String)
  | [] => .ok []
  | item :: items => do
      let first ← item.text
      let rest ← texts items
      return first :: rest

end

/-! ## Keys and messages -/

/-- The constructor call that makes a value of the calendar. -/
def calendarCall (name : String) (parts : List String) : String :=
  "datetime." ++ name ++ "(" ++ ", ".intercalate parts ++ ")"

def Date.inspected (day : Date) : String :=
  calendarCall "date" ([day.year, day.month, day.day].map fun part => wholeText (Int.ofNat part))

/-- The trailing noughts of a time are left out. -/
def Moment.inspected (time : Moment) : String :=
  let front := [time.date.year, time.date.month, time.date.day, time.hour, time.minute]
  let back :=
    if time.microsecond ≠ 0 then [time.second, time.microsecond]
    else if time.second ≠ 0 then [time.second]
    else []
  calendarCall "datetime" ((front ++ back).map fun part => wholeText (Int.ofNat part))

/-- The parts of a length are named, and those that are nought are left out; without any it is nought. -/
def Duration.inspected (duration : Duration) : String :=
  let parts : List (String × Int) :=
    [("days", duration.days), ("seconds", duration.seconds), ("microseconds", duration.microseconds)]
  match parts.filter fun part => part.2 ≠ 0 with
  | [] => calendarCall "timedelta" ["0"]
  | present => calendarCall "timedelta" (present.map fun part => part.1 ++ "=" ++ wholeText part.2)

mutual

def Value.inspected : Value → Except Mishap String
  | .null => .ok "None"
  | .bool value => .ok (if value then "True" else "False")
  | .int value => writeInt value
  | .float value => .ok value.text
  | .str text => .ok (quoted text)
  | .list items => do return "[" ++ ", ".intercalate (← inspectedItems items) ++ "]"
  | .tuple items => do
      match ← inspectedItems items with
      | [only] => return "(" ++ only ++ ",)"
      | texts => return "(" ++ ", ".intercalate texts ++ ")"
  | .map entries => do return "\x7b" ++ ", ".intercalate (← inspectedEntries entries) ++ "\x7d"
  | .object _ => .ok objectText
  | .date day => .ok day.inspected
  | .moment time => .ok time.inspected
  | .duration span => .ok span.inspected
  | .method taken => .ok taken.text

def Value.inspectedItems : List Value → Except Mishap (List String)
  | [] => .ok []
  | item :: items => do
      let first ← item.inspected
      let rest ← inspectedItems items
      return first :: rest

def Value.inspectedEntries : List (Value × Value) → Except Mishap (List String)
  | [] => .ok []
  | (key, value) :: entries => do
      let name ← key.inspected
      let text ← value.inspected
      let rest ← inspectedEntries entries
      return (name ++ ": " ++ text) :: rest

end

def Value.spelled : Value → Except Mishap String
  | .str text => .ok text
  | .date day => .ok day.text
  | .moment time => .ok time.text
  | .duration span => .ok span.text
  | other => other.inspected

end Folio
