import Folio.Location
import Folio.Text.Digit

/-!
Contract: what a command line asks for.

Owns:
- the switches, their abbreviations, and values that are attached to them with an equals sign;
- the commands with their operands, and the divider behind which everything is an operand;
- reading a whole command line, or refusing it.

Why a command line is refused is not kept. Asking for help counts as a refusal here.
-/

namespace Folio.CommandLine

open Folio.Text

/-! ## Switches -/

inductive Switch where
  | help
  | version
  | debug
  | root
  | config
  | argument
deriving DecidableEq, Repr

namespace Switch

def names : Switch → List String
  | .help => ["-h", "--help"]
  | .version => ["-v", "--version"]
  | .debug => ["--debug"]
  | .root => ["--root"]
  | .config => ["--config"]
  | .argument => ["--arg"]

def takesValue : Switch → Bool
  | .help | .version | .debug => false
  | .root | .config | .argument => true

/-- The switches that stand before a command. -/
def general : List Switch := [.help, .version, .debug]

end Switch

/-- A word of a command line. A switch may have a value attached to it. -/
inductive Word where
  | operand (text : String)
  | divider
  | switch (switch : Switch) (attached : Option String)
  | unknown
deriving DecidableEq, Repr

def dividerText : String := "--"

/-- Switches under their names. -/
def nameTable (switches : List Switch) : List (String × Switch) :=
  switches.flatMap fun switch => switch.names.map fun name => (name, switch)

/-- What stands before and behind the first equals sign. -/
def splitAttached (item : List Char) : List Char × Option String :=
  match item.dropWhile (· ≠ '=') with
  | [] => (item, none)
  | _ :: after => (item.takeWhile (· ≠ '='), some (String.ofList after))

/-- The switches that an item may mean: by an abbreviation, or by a short name with a value behind it. -/
def switchMatches (table : List (String × Switch)) (item : List Char) :
    List (Switch × Option String) :=
  match item with
  | '-' :: '-' :: _ =>
      let (name, attached) := splitAttached item
      (table.filter fun entry => name.isPrefixOf entry.1.toList).map fun entry => (entry.2, attached)
  | first :: second :: rest =>
      (table.filter fun entry => entry.1.toList = [first, second]).map fun entry =>
        (entry.2, some (String.ofList rest))
  | _ => []

/-- The text without a line break at its end. -/
def dropLastBreak (item : List Char) : List Char :=
  if item.getLast? = some '\n' then item.dropLast else item

/-- A minus sign and digits, with a point before some of them at most. A line break may follow. -/
def isNegativeNumeral (item : List Char) : Bool :=
  match dropLastBreak item with
  | '-' :: rest =>
      let whole := rest.takeWhile isDigit
      match rest.dropWhile isDigit with
      | [] => !whole.isEmpty
      | '.' :: fraction => !fraction.isEmpty && fraction.all isDigit
      | _ => false
  | _ => false

/-- What an item before the divider is; nothing if it may mean several switches. -/
def classify (switches : List Switch) (text : String) : Option Word :=
  let table := nameTable switches
  let item := text.toList
  if item.head? ≠ some '-' || item = ['-'] then some (.operand text)
  else match table.lookup text with
    | some switch => some (.switch switch none)
    | none =>
        let (name, attached) := splitAttached item
        match attached, table.lookup (String.ofList name) with
        | some value, some switch => some (.switch switch (some value))
        | _, _ =>
            match switchMatches table item with
            | [(switch, attached)] => some (.switch switch attached)
            | _ :: _ :: _ => none
            | [] =>
                if isNegativeNumeral item || item.contains ' ' then some (.operand text)
                else some .unknown

/-- The words of a command line; behind the divider there are operands only. -/
def classifyAll (switches : List Switch) : List String → Option (List Word)
  | [] => some []
  | item :: items =>
      if item == dividerText then some (.divider :: items.map .operand)
      else do
        let word ← classify switches item
        let words ← classifyAll switches items
        return word :: words

/-! ## Commands -/

inductive Command where
  | render
  | inline
  | list
  | check
deriving DecidableEq, Repr

namespace Command

def named? (name : String) : Option Command :=
  [("render", Command.render), ("inline", .inline), ("list", .list), ("check", .check)].lookup name

/-- Takes a page or a text to render, and arguments for it. -/
def renders : Command → Bool
  | .render | .inline => true
  | .list | .check => false

def switches (command : Command) : List Switch :=
  if command.renders then [.help, .root, .config, .argument] else [.help, .root, .config]

end Command

/-- What a switch is given. A divider that is attached to a switch is taken away, which leaves nothing. -/
inductive Given where
  | text (value : String)
  | nothing
deriving DecidableEq, Repr

def Given.ofAttached (value : String) : Given :=
  if value == dividerText then .nothing else .text value

/-- A command with what was given for it; the last root and the last settings file count. -/
structure Request where
  command : Command
  operand : Option String
  root : Option Given
  config : Option Given
  arguments : List Given
deriving DecidableEq, Repr

namespace Request

def of (command : Command) : Request := ⟨command, none, none, none, []⟩

def set (request : Request) (switch : Switch) (value : Given) : Request :=
  match switch with
  | .root => { request with root := some value }
  | .config => { request with config := some value }
  | .argument => { request with arguments := request.arguments ++ [value] }
  | _ => request

def awaitsOperand (request : Request) : Bool :=
  request.command.renders && request.operand.isNone

/-- Reads the words behind a command. One divider may stand on either side of the operand. -/
def readWords : List Word → Request → Option Request
  | [], request => if request.awaitsOperand then none else some request
  | .switch switch (some value) :: words, request =>
      if switch.takesValue then readWords words (request.set switch (.ofAttached value)) else none
  | .switch switch none :: .operand value :: words, request =>
      if switch.takesValue then readWords words (request.set switch (.text value)) else none
  | .switch _ none :: _, _ => none
  | .operand text :: .divider :: words, request =>
      if request.awaitsOperand then readWords words { request with operand := some text } else none
  | .operand text :: words, request =>
      if request.awaitsOperand then readWords words { request with operand := some text } else none
  | .divider :: .operand text :: words, request =>
      if request.awaitsOperand then readWords words { request with operand := some text } else none
  | .divider :: _, _ => none
  | .unknown :: _, _ => none

/-- The text to render is read from the standard input. -/
def readsInput (request : Request) : Bool :=
  request.command = .inline && request.operand = some "-"

end Request

/-! ## Command lines -/

inductive Invocation where
  | run (request : Request)
  | showVersion
deriving DecidableEq, Repr

def parseCommand (command : Command) (items : List String) : Option Invocation := do
  let words ← classifyAll command.switches items
  let request ← Request.readWords words (.of command)
  return .run request

/-- Finds the command behind the general switches. -/
def parseItems : List String → Option Invocation
  | [] => none
  | item :: items => do
      match ← classify Switch.general item with
      | .operand name => parseCommand (← Command.named? name) items
      | .switch .debug none => parseItems items
      | .switch .version none => some .showVersion
      | _ => none

/-- What a command line asks for, or nothing if it is refused. -/
def parseLine (items : List String) : Option Invocation := do
  let _ ← classifyAll Switch.general items
  parseItems items

end Folio.CommandLine
