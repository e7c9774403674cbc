import Folio.CommandLine.Run

/-!
Contract: the program.

Owns: reading the files of the working folder and the standard input, and writing the outcome of a command
line. Everything that is decided is decided in `Folio.CommandLine`.
-/

namespace Folio.Main

open Folio.CommandLine

/-- The files below a folder whose segments from the working folder are given. -/
partial def filesBelow (entries : Array IO.FS.DirEntry) (segments : List String) :
    IO (List (List String × String)) := do
  let mut files := []
  for entry in entries do
    let place := segments ++ [entry.fileName]
    if ← entry.path.isDir then
      files := files ++ (← filesBelow (← entry.path.readDir) place)
    else
      try files := files ++ [(place, ← IO.FS.readFile entry.path)]
      catch _ => pure ()
  return files

partial def readAll (stream : IO.FS.Stream) (before : String) : IO String := do
  let line ← stream.getLine
  if line.isEmpty then return before else readAll stream (before ++ line)

def needsInput (items : List String) : Bool :=
  match parseLine items with
  | some (.run request) => request.readsInput
  | _ => false

def usage : String :=
  "usage: " ++ programName ++ " [-v] [--debug] render|inline|list|check ...\n"

/-- Runs a command line in the working folder. -/
def serve (items : List String) : IO UInt32 := do
  let folder ← IO.currentDir
  let files ← filesBelow (← folder.readDir) []
  let input ← if needsInput items then readAll (← IO.getStdin) "" else pure ""
  match run ⟨⟨files⟩, folder.toString⟩ items input with
  | .ok (.finished code output errors) =>
      IO.print output
      IO.eprint errors
      return code.toUInt32
  | .ok .refused =>
      IO.eprint usage
      return refusedCode.toUInt32
  | .error cause =>
      IO.eprintln (cause.kindName ++ ": " ++ cause.message)
      return 1

end Folio.Main

def main (items : List String) : IO UInt32 :=
  Folio.Main.serve items
