/-!
Contract: methods of values.

Owns: methods that have been taken from a value and not called, with their text; and the public methods that
numbers, dates, moments and durations have. Some belong to the value itself, others to its kind, which all values
of the kind share.

Does not own: what a method does when it is called. No template calls one.
-/

namespace Folio

/-- A method under its name. The kind is that of the value it was taken from, with the module of the kind. -/
structure Method where
  kind : String
  name : String
  isShared : Bool
deriving DecidableEq, Repr

/-- The place of the owner in memory, which no two runs share, is left out. -/
def Method.text (method : Method) : String :=
  "<built-in method " ++ method.name ++ " of " ++ (if method.isShared then "type" else method.kind) ++
    " object>"

/-- The names of the methods of a kind. -/
structure MethodNames where
  own : List String
  shared : List String

namespace MethodNames

def none : MethodNames := ⟨[], []⟩

def whole : MethodNames where
  own := ["as_integer_ratio", "bit_count", "bit_length", "conjugate", "to_bytes"]
  shared := ["from_bytes"]

def float : MethodNames where
  own := ["as_integer_ratio", "conjugate", "hex", "is_integer"]
  shared := ["fromhex"]

def date : MethodNames where
  own := ["ctime", "isocalendar", "isoformat", "isoweekday", "replace", "strftime", "timetuple", "toordinal",
    "weekday"]
  shared := ["fromisocalendar", "fromisoformat", "fromordinal", "fromtimestamp", "today"]

/-- A moment has the methods of a date, and more. -/
def moment : MethodNames where
  own := date.own ++ ["astimezone", "date", "dst", "time", "timestamp", "timetz", "tzname", "utcoffset",
    "utctimetuple"]
  shared := date.shared ++ ["combine", "now", "strptime", "utcfromtimestamp", "utcnow"]

def duration : MethodNames where
  own := ["total_seconds"]
  shared := []

/-- The method of a kind under a name. -/
def method? (names : MethodNames) (kind name : String) : Option Method :=
  if names.own.contains name then some ⟨kind, name, false⟩
  else if names.shared.contains name then some ⟨kind, name, true⟩
  else .none

end MethodNames

end Folio
