import Folio.Source

/-!
Contract: places in the tree of files that a command works on.

Owns: locations as a user writes them, their texts, and what lies there. A location is meant from the
working folder, or from that folder by its full name, or from the top of all files. Of what lies outside
the working folder nothing is known.
-/

namespace Folio

open Folio.Text

/-- Where a location starts. -/
inductive Anchor where
  | here
  | workingFolder (name : String)
  | top (slashes : String)
deriving DecidableEq, Repr

structure Location where
  anchor : Anchor
  segments : List String
deriving DecidableEq, Repr

namespace Location

/-- The slashes that a text starts with: two of them are kept apart from one, more are one. -/
def leadingSlashes (chars : List Char) : String :=
  match (chars.takeWhile (· = '/')).length with
  | 0 => ""
  | 2 => "//"
  | _ => "/"

/-- Empty segments and single dots are left out; two dots stay. -/
def parse (text : String) : Location :=
  let slashes := leadingSlashes text.toList
  let segments := (splitText '/' text).filter fun segment => segment != "" && segment != "."
  ⟨if slashes == "" then .here else .top slashes, segments⟩

def workingFolder (name : String) : Location :=
  ⟨.workingFolder name, []⟩

def text (location : Location) : String :=
  let inside := "/".intercalate location.segments
  match location.anchor with
  | .here => if location.segments.isEmpty then "." else inside
  | .workingFolder name => if location.segments.isEmpty then name else name ++ "/" ++ inside
  | .top slashes => slashes ++ inside

def child (location : Location) (name : String) : Location :=
  { location with segments := location.segments ++ [name] }

/-- The segments from the working folder, if the location is meant from there. -/
def inside? (location : Location) : Option (List String) :=
  match location.anchor with
  | .top _ => none
  | _ => some location.segments

/-- The folder of a tree that lies at a location. -/
def folder? (location : Location) (tree : FileTree) : Option (List String) :=
  location.inside?.bind fun segments => tree.folderFrom? [] segments

/-- The text of the file that lies at a location. -/
def file? (location : Location) (tree : FileTree) : Option String :=
  location.inside?.bind fun segments => tree.fileFrom? [] segments

end Location

end Folio
