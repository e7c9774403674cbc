import Folio.Number.Binary64
import Folio.Value.Calendar
import Folio.Value.Method

/-!
Contract: values that templates work on.

Owns: the value type, the names of its kinds, and mappings: entries in the order of their first
insertion, found by key. Numbers are equal keys when they are equal numbers, with `true` as one and
`false` as nought. Objects are known by identity alone, so an object key equals no other key; so are the methods
of a single value, while a method that a kind shares is the same wherever it is taken.
Does not own: properties and texts of values.
-/

namespace Folio

open Folio.Number

inductive Value where
  | null
  | bool (value : Bool)
  | int (value : Int)
  | float (value : Binary64)
  | str (text : String)
  | list (items : List Value)
  | tuple (items : List Value)
  | map (entries : List (Value × Value))
  | object (attributes : List (String × Value))
  | date (day : Date)
  | moment (time : Moment)
  | duration (span : Duration)
  | method (taken : Method)
deriving Repr, Inhabited

/-- Keys and their values, in order of insertion. -/
abbrev Entries := List (Value × Value)

def Value.kindName : Value → String
  | .null => "NoneType"
  | .bool _ => "bool"
  | .int _ => "int"
  | .float _ => "float"
  | .str _ => "str"
  | .list _ => "list"
  | .tuple _ => "tuple"
  | .map _ => "dict"
  | .object _ => "Obj"
  | .date _ => "date"
  | .moment _ => "datetime"
  | .duration _ => "timedelta"
  | .method _ => "builtin_function_or_method"

/-- The kind behind its module, which only the kinds of the calendar name. -/
def Value.fullKindName : Value → String
  | .date day => "datetime." ++ (Value.date day).kindName
  | .moment time => "datetime." ++ (Value.moment time).kindName
  | .duration span => "datetime." ++ (Value.duration span).kindName
  | other => other.kindName

/-- The items of a list or tuple. -/
def Value.items? : Value → Option (List Value)
  | .list items => some items
  | .tuple items => some items
  | _ => none

def Value.isSequence (value : Value) : Bool :=
  value.items?.isSome

/-! ## Keys -/

/-- A number as a key: whole, or not known to be whole. -/
inductive Quantity where
  | whole (value : Int)
  | real (value : Binary64)
deriving DecidableEq, Repr

def Quantity.same : Quantity → Quantity → Bool
  | .whole left, .whole right => left == right
  | .real left, .real right => left.same right
  | .whole left, .real right => right.whole? == some left
  | .real left, .whole right => left.whole? == some right

def Value.quantity? : Value → Option Quantity
  | .bool value => some (.whole (if value then 1 else 0))
  | .int value => some (.whole value)
  | .float value => some (.real value)
  | _ => none

def Value.sameQuantity (quantity : Quantity) (other : Value) : Bool :=
  match other.quantity? with
  | some quantity' => quantity.same quantity'
  | none => false

mutual

/-- Equality of keys. -/
def Value.sameKey : Value → Value → Bool
  | .null, other => match other with | .null => true | _ => false
  | .str text, other => match other with | .str text' => text == text' | _ => false
  | .tuple items, other => match other with | .tuple items' => sameKeys items items' | _ => false
  | .date day, other => match other with | .date day' => day == day' | _ => false
  | .moment time, other => match other with | .moment time' => time == time' | _ => false
  | .duration span, other => match other with | .duration span' => span == span' | _ => false
  | .method taken, other => match other with | .method taken' => taken.isShared && taken == taken' | _ => false
  | .bool value, other => sameQuantity (.whole (if value then 1 else 0)) other
  | .int value, other => sameQuantity (.whole value) other
  | .float value, other => sameQuantity (.real value) other
  | .list _, _ => false
  | .map _, _ => false
  | .object _, _ => false

def Value.sameKeys : List Value → List Value → Bool
  | [], [] => true
  | left :: lefts, right :: rights => left.sameKey right && sameKeys lefts rights
  | _, _ => false

end

mutual

/-- The first part of a value, itself included, that cannot be a key. -/
def Value.unkeyable? : Value → Option Value
  | .list items => some (.list items)
  | .map entries => some (.map entries)
  | .tuple items => unkeyableIn? items
  | _ => none

def Value.unkeyableIn? : List Value → Option Value
  | [] => none
  | item :: items =>
      match item.unkeyable? with
      | some part => some part
      | none => unkeyableIn? items

end

namespace Entries

/-- The value under a key. -/
def at? (entries : Entries) (key : Value) : Option Value :=
  match entries with
  | [] => none
  | (key', value) :: rest => if key'.sameKey key then some value else at? rest key

/-- The value under a name. -/
def named? (entries : Entries) (name : String) : Option Value :=
  at? entries (.str name)

/-- A present key keeps its place and its first spelling; a new one goes to the end. -/
def put (entries : Entries) (key value : Value) : Entries :=
  match entries with
  | [] => [(key, value)]
  | (key', value') :: rest =>
      if key'.sameKey key then (key', value) :: rest else (key', value') :: put rest key value

/-- Puts all entries of `upper` into `lower`, in their order. -/
def overlay (lower upper : Entries) : Entries :=
  upper.foldl (fun merged entry => put merged entry.1 entry.2) lower

/-- The mapping of a list of pairs in which keys may repeat. -/
def ofPairs (pairs : List (Value × Value)) : Entries :=
  overlay [] pairs

def without (entries : Entries) (name : String) : Entries :=
  entries.filter fun entry => !entry.1.sameKey (.str name)

end Entries

end Folio
