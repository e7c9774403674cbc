import Folio.Mishap
import Folio.Text.Blank
import Folio.Text.Split

/-!
Contract: paths of templates.

Owns: the canonical form of a path below the template root (segments between slashes, none of them
empty or a dot or two dots), joining and splitting off folders, and the folders above a page.
-/

namespace Folio.Path

open Folio.Text

def current : List Char := ['.']
def parent : List Char := ['.', '.']

/-- One more segment on top of a stack of segments; two dots take one away if there is one. -/
def stackSegment (stack : List (List Char)) (segment : List Char) : List (List Char) :=
  if segment = [] ∨ segment = current then stack
  else if segment = parent then
    match stack with
    | [] => [parent]
    | top :: below => if top = parent then parent :: stack else below
  else segment :: stack

def reduceSegments (segments : List (List Char)) : List (List Char) :=
  (segments.foldl stackSegment []).reverse

/-- Slashes throughout, and no blanks at either end. -/
def clean (path : String) : List Char :=
  strip (path.toList.map fun char => if char = '\\' then '/' else char)

/-- The canonical form of a path: `/` between segments, none in front, nothing to skip or climb. -/
def normalize (path : String) : Except Mishap String :=
  let cleaned := clean path
  if cleaned.isEmpty then .error .emptyPath
  else
    match reduceSegments (splitOn '/' (cleaned.dropWhile (· = '/'))) with
    | [] => .error (.invalidPath path)
    | first :: rest =>
        if first = parent then .error (.escapingPath path)
        else .ok (String.ofList (joinWith '/' (first :: rest)))

/-- The path of `name` in a folder; a name that starts with a slash is meant from the root. -/
def join (folder name : String) : String :=
  if name.toList.head? = some '/' ∨ folder = "" then name
  else if folder.toList.getLast? = some '/' then folder ++ name
  else folder ++ "/" ++ name

/-- The folder that a path lies in: what stands before its last slash. -/
def folder (path : String) : String :=
  String.ofList (joinWith '/' (splitOn '/' path.toList).dropLast)

/-- The folder of a page and the folders above it, nearest first; the root is empty text. -/
def foldersUp (path : String) : List String :=
  let segments := (splitOn '/' path.toList).dropLast
  (List.range (segments.length + 1)).reverse.map fun count =>
    String.ofList (joinWith '/' (segments.take count))

end Folio.Path
