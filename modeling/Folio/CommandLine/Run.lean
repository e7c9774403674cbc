import Folio.Audit
import Folio.CommandLine.Argument
import Folio.CommandLine.Usage
import Folio.CommandLine.Version

/-!
Contract: the outcome of a command line.

Owns: what each command writes and the code that it ends with, and which failures are told to the user as
errors. A failure that is neither an error of a template nor of a value is not an outcome; it ends the
program as it is.
-/

namespace Folio.CommandLine

open Folio.Text

/-- Where a command runs: the files of the working folder, and that folder's full name. -/
structure Workplace where
  tree : FileTree
  folder : String
deriving Repr

/-- A refused command line ends with a note on its usage, which is not kept. -/
inductive Outcome where
  | finished (code : Nat) (output errors : String)
  | refused
deriving DecidableEq, Repr

def refusedCode : Nat := 2

/-! ## Reports -/

def idsJson (ids : List String) : String :=
  "\x7b\"pages\": [" ++ ", ".intercalate (ids.map jsonString) ++ "]\x7d"

/-- The text of a problem in a list that is indented by four. -/
def problemJson (problem : Problem) : String :=
  "    \x7b\n      \"page\": " ++ jsonString problem.page ++ ",\n      \"error\": " ++
    jsonString problem.error ++ "\n    \x7d"

def reportJson (report : Report) : String :=
  let problems :=
    if report.problems.isEmpty then "[]"
    else "[\n" ++ ",\n".intercalate (report.problems.map problemJson) ++ "\n  ]"
  "\x7b\n  \"pages\": " ++ Number.wholeText report.pages ++ ",\n  \"problems\": " ++ problems ++ "\n\x7d"

/-! ## What is given -/

/-- How nothing is shown where a text was to be given. -/
def nothingText : String := "[]"

/-- Nothing is no place in the file tree, so it cannot be asked whether it is a folder or a file. -/
def placeOf (question : String) : Given → Except Mishap Location
  | .text value => .ok (.parse value)
  | .nothing => .error (.raised "AttributeError" ("'list' object has no attribute " ++ quoted question))

def givenArgument : Given → Except Mishap (String × Value)
  | .text item => parseArgument item
  | .nothing => .error (.argumentWithoutValue nothingText)

def requestArguments (request : Request) : Except Fault Entries :=
  ((request.arguments.mapM givenArgument).map argumentEntries).mapError Fault.mishap

/-! ## Commands -/

def rootOf (workplace : Workplace) (request : Request) : Except Fault Location :=
  match request.root with
  | some root => (placeOf "is_dir" root).mapError Fault.mishap
  | none => .ok (.workingFolder workplace.folder)

/-- The site that a request is about. -/
def openSite (workplace : Workplace) (request : Request) : Except Fault Site := do
  let root ← rootOf workplace request
  match root.folder? workplace.tree with
  | some folder =>
      let config ← (request.config.mapM (placeOf "is_file")).mapError Fault.mishap
      Site.ofFolder workplace.tree root folder config
  | none => .error (.mishap (.rootNotFound root.text))

/-- What a command writes, and the code that it ends with. -/
def perform (workplace : Workplace) (request : Request) (input : String) :
    Except Fault (Nat × String) := do
  let site ← openSite workplace request
  match request.command with
  | .render => do
      let arguments ← requestArguments request
      let text ← (Site.render (request.operand.getD "") arguments site).1
      return (0, text)
  | .inline => do
      let arguments ← requestArguments request
      let template := if request.readsInput then input else request.operand.getD ""
      let text ← (Site.renderText template arguments site).1
      return (0, text)
  | .list => do
      let ids ← (Site.pageIds site).1
      return (0, idsJson ids)
  | .check => do
      let report ← (audit site).1
      return (if report.problems.isEmpty then 0 else 1, reportJson report)

/-- A failure that the user is told about. -/
def isTold (fault : Fault) : Bool :=
  match fault with
  | .mishap cause => cause.kindName == "ValueError"
  | _ => true

/-- How a fault is told: in one line, without the blanks at the end of its message. -/
def complaint (fault : Fault) : String :=
  "error: " ++ String.ofList (stripRight fault.message.toList) ++ "\n"

def programName : String := "tpages"

/-- Runs a command line. The input is read only where a request asks for it. -/
def run (workplace : Workplace) (items : List String) (input : String) : Except Mishap Outcome :=
  match parseLine items with
  | none => .ok .refused
  | some .showVersion => .ok (.finished 0 (programName ++ " " ++ version none ++ "\n") "")
  | some (.run request) =>
      match perform workplace request input with
      | .ok (code, output) => .ok (.finished code output "")
      | .error (.mishap cause) =>
          if isTold (.mishap cause) then .ok (.finished refusedCode "" (complaint (.mishap cause)))
          else .error cause
      | .error fault => .ok (.finished refusedCode "" (complaint fault))

end Folio.CommandLine
