import Folio.Text.Blank
import Folio.Yaml.Load

/-!
Contract: render arguments that are given as texts.

Owns: cutting `KEY=VALUE` at its first equals sign, and the value of what stands behind it: the value of the
YAML text, or the text itself where it is blank or malformed.
-/

namespace Folio.CommandLine

open Folio.Text

/-- What stands before and behind the first equals sign. -/
def splitArgument? (item : String) : Option (String × String) :=
  let chars := item.toList
  match chars.dropWhile (· ≠ '=') with
  | [] => none
  | _ :: after => some (String.ofList (chars.takeWhile (· ≠ '=')), String.ofList after)

def argumentValue (raw : String) : Except Mishap Value :=
  if isBlankText raw then .ok (.str raw)
  else match Yaml.load raw with
    | .ok value => .ok value
    | .error (.mishap cause) => .error cause
    | .error _ => .ok (.str raw)

def parseArgument (item : String) : Except Mishap (String × Value) :=
  match splitArgument? item with
  | none => .error (.argumentWithoutValue item)
  | some (name, raw) =>
      let name := stripText name
      if name == "" then .error (.argumentWithoutKey item)
      else (argumentValue raw).map fun value => (name, value)

/-- A mapping of arguments; the last value of a name counts. -/
def argumentEntries (arguments : List (String × Value)) : Entries :=
  Entries.ofPairs (arguments.map fun (name, value) => (.str name, value))

def parseArguments (items : List String) : Except Mishap Entries :=
  (items.mapM parseArgument).map argumentEntries

end Folio.CommandLine
