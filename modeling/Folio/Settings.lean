import Folio.Fault
import Folio.Location
import Folio.Text.Identifier
import Folio.Value.Text
import Folio.Yaml.Load

/-!
Contract: the settings of a site.

Owns: the settings with their defaults, the keys and kinds of values that a mapping of settings may hold,
and reading them from a settings file. Entries are checked one by one before any value is judged.
-/

namespace Folio

open Folio.Text

structure Settings where
  pageExtension : String
  layoutName : String
  maxDepth : Int
  defaultBinding : String
  arguments : Entries
deriving Repr

namespace Settings

def default : Settings := ⟨".html", "_layout", 64, "it", []⟩

/-- The later arguments take precedence. -/
def withArguments (settings : Settings) (arguments : Entries) : Settings :=
  { settings with arguments := Entries.overlay settings.arguments arguments }

/-- A greater depth is refused. -/
def depthLimit : Int := 100

/-! ## Keys -/

def pageExtensionKey : String := "page_extension"

def layoutNameKey : String := "layout_name"

def maxDepthKey : String := "max_depth"

def defaultBindingKey : String := "default_binding"

def argumentsKey : String := "args"

/-- The kind of value that belongs to each key. -/
def keyKinds : List (String × String) :=
  [(pageExtensionKey, "str"), (layoutNameKey, "str"), (maxDepthKey, "int"), (defaultBindingKey, "str"),
    (argumentsKey, "dict")]

def expectedKind? : Value → Option String
  | .str name => keyKinds.lookup name
  | _ => none

/-- Refuses an unknown key and a value of the wrong kind. -/
def checkEntry (source : String) (entry : Value × Value) : Except Fault Unit := do
  let key ← entry.1.spelled.mapError Fault.mishap
  match expectedKind? entry.1 with
  | none => throw (.settings (.unknownKey source key))
  | some expected =>
      if entry.2.kindName = expected then return ()
      else throw (.settings (.wrongKind source key expected entry.2.kindName))

/-! ## Values -/

def textUnder (entries : Entries) (name default : String) : String :=
  match Entries.named? entries name with
  | some (.str text) => text
  | _ => default

def depthUnder (entries : Entries) (default : Int) : Int :=
  match Entries.named? entries maxDepthKey with
  | some (.int depth) => depth
  | _ => default

def entriesUnder (entries : Entries) : Entries :=
  match Entries.named? entries argumentsKey with
  | some (.map inner) => inner
  | _ => []

/-- A page extension that is not empty starts with a point. -/
def withPoint (extension : String) : String :=
  match extension.toList with
  | [] => extension
  | first :: _ => if first = '.' then extension else "." ++ extension

/-- Settings that a site can work with. -/
def check (settings : Settings) (source : String) : Except Fault Settings :=
  if settings.maxDepth < 1 then .error (.settings (.depthNotPositive source))
  else if depthLimit < settings.maxDepth then .error (.settings (.depthTooLarge source depthLimit))
  else if !isIdentifier settings.defaultBinding then
    .error (.settings (.bindingNotIdentifier source))
  else .ok settings

/-- The settings that entries with known keys and fitting values stand for. -/
def ofKnown (entries : Entries) : Settings where
  pageExtension := withPoint (textUnder entries pageExtensionKey default.pageExtension)
  layoutName := textUnder entries layoutNameKey default.layoutName
  maxDepth := depthUnder entries default.maxDepth
  defaultBinding := textUnder entries defaultBindingKey default.defaultBinding
  arguments := entriesUnder entries

/-- The settings of a mapping; `source` says in messages where it comes from. -/
def ofEntries (entries : Entries) (source : String) : Except Fault Settings := do
  entries.forM (checkEntry source)
  (ofKnown entries).check source

/-! ## Files -/

def fileName : String := "tpages.yaml"

/-- The source that settings without a file name in messages. -/
def unnamedSource : String := "<dict>"

/-- The settings of a text. An empty text leaves the defaults. -/
def parse (text source : String) : Except Fault Settings :=
  match Yaml.load text with
  | .ok .null => .ok default
  | .ok (.map entries) => ofEntries entries source
  | .ok _ => .error (.settings (.notMapping source))
  | .error .malformed => .error (.settings (.malformed source))
  | .error .repeatedKey => .error (.settings (.repeatedKey source))
  | .error (.mishap cause) => .error (.mishap cause)

/-- The settings in a file; without the file they are the defaults. -/
def load (tree : FileTree) (location : Location) : Except Fault Settings :=
  match location.file? tree with
  | some text => parse text location.text
  | none => .ok default

/-- The settings of a root folder, in the explicit file if one is named. -/
def find (tree : FileTree) (root : Location) (explicit : Option Location) : Except Fault Settings :=
  match explicit with
  | none => load tree (root.child fileName)
  | some location =>
      match location.file? tree with
      | some text => parse text location.text
      | none => .error (.settings (.fileNotFound location.text))

end Settings

end Folio
