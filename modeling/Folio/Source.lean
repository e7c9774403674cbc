import Folio.Path
import Folio.Text.Order

/-!
Contract: where the texts of templates come from.

Owns: files in memory under canonical paths, a tree of files below a folder, reading and listing either,
and changing files in memory.
Does not own: the meaning of a text.
-/

namespace Folio

open Folio.Text

/-! ## Trees of files -/

/-- Every break of a line becomes a line feed: a carriage return, alone or with the line feed behind. -/
def unifyLines : List Char → List Char
  | [] => []
  | '\r' :: '\n' :: rest => '\n' :: unifyLines rest
  | '\r' :: rest => '\n' :: unifyLines rest
  | char :: rest => char :: unifyLines rest

/-- Files under the segments of their paths. Folders are there because a file lies in them. -/
structure FileTree where
  files : List (List String × String)
deriving Repr

namespace FileTree

def put (tree : FileTree) (path : List String) (content : String) : FileTree :=
  ⟨tree.files.filter (fun file => file.1 != path) ++ [(path, content)]⟩

def remove (tree : FileTree) (path : List String) : FileTree :=
  ⟨tree.files.filter fun file => file.1 != path⟩

/-- The text of a file, with unified line breaks. -/
def read? (tree : FileTree) (path : List String) : Option String :=
  (tree.files.lookup path).map fun content => String.ofList (unifyLines content.toList)

/-- A folder other than the top of the tree holds some file. -/
def isFolder (tree : FileTree) (path : List String) : Bool :=
  path.isEmpty || tree.files.any fun file => path.isPrefixOf file.1 && file.1 != path

/-- The folder reached from `place` by the segments of a path, of which two dots climb. -/
def folderFrom? (tree : FileTree) (place : List String) : List String → Option (List String)
  | [] => some place
  | segment :: rest =>
      if segment = ".." then
        if place.isEmpty then none else folderFrom? tree place.dropLast rest
      else if tree.isFolder (place ++ [segment]) then folderFrom? tree (place ++ [segment]) rest
      else none

/-- The text of the file at the end of a path, if folders lead to it. -/
def fileFrom? (tree : FileTree) (place path : List String) : Option String :=
  match path.getLast? with
  | none => none
  | some name =>
      match folderFrom? tree place path.dropLast with
      | none => none
      | some folder => tree.read? (folder ++ [name])

end FileTree

/-! ## Sources -/

/-- Memory, with canonical paths, or the files below a folder of a tree. -/
inductive Source where
  | memory (files : List (String × String))
  | folder (tree : FileTree) (root : List String)
deriving Repr

namespace Source

def emptyMemory : Source := .memory []

/-- The text of the file with a canonical path. -/
def fileAt? (source : Source) (path : String) : Except Mishap (Option String) :=
  match source with
  | .memory files => .ok (files.lookup path)
  | .folder tree root =>
      if path.toList.contains '\x00' then .error .nullInPath
      else .ok (tree.read? (root ++ splitText '/' path))

/-- The text of the file that a path names, if there is one. -/
def get? (source : Source) (path : String) : Except Mishap (Option String) := do
  source.fileAt? (← Path.normalize path)

/-- The paths of all files, in ascending order. -/
def list : Source → List String
  | .memory files => sortTexts (files.map Prod.fst)
  | .folder tree root =>
      sortTexts ((tree.files.filter fun file => root.isPrefixOf file.1 && file.1 != root).map fun file =>
        "/".intercalate (file.1.drop root.length))

/-- A file that is there gets the new text; any other is added. -/
def putFile (files : List (String × String)) (path text : String) : List (String × String) :=
  match files with
  | [] => [(path, text)]
  | file :: rest =>
      if file.1 = path then (path, text) :: rest else file :: putFile rest path text

def write (source : Source) (path text : String) : Except Mishap Source := do
  let path ← Path.normalize path
  match source with
  | .memory files => return .memory (putFile files path text)
  | .folder tree root => return .folder (tree.put (root ++ splitText '/' path) text) root

/-- Says also whether the file was there. -/
def delete (source : Source) (path : String) : Except Mishap (Bool × Source) := do
  let path ← Path.normalize path
  match source with
  | .memory files =>
      return ((files.lookup path).isSome, .memory (files.filter fun file => file.1 != path))
  | .folder tree root =>
      let place := root ++ splitText '/' path
      return ((tree.files.lookup place).isSome, .folder (tree.remove place) root)

end Source

end Folio
