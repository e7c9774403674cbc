import Folio.FrontMatter
import Folio.Path
import Folio.Template.Node

/-!
Contract: a page as it is read from its text.

Owns: pages with their arguments, the layout they ask for and their nodes; dropping the blank lines in front
of a body; and the places of errors, which count from the start of the whole text.
-/

namespace Folio

open Folio.Text Folio.Template

structure Page where
  id : String
  path : String
  arguments : Entries
  layout : Option String
  nodes : List Node
deriving Repr

namespace Page

def folder (page : Page) : String :=
  Path.folder page.id

/-! ## Blank lines in front -/

def isBlankLine (line : List Char) : Bool :=
  let rest := line.dropWhile FrontMatter.isLineBlank
  rest.isEmpty || rest == ['\r']

/-- The number of blank lines in front, and the lines behind them. The last line is not ended, so it is
never taken. -/
def spanBlankLines : List (List Char) → Nat × List (List Char)
  | line :: next :: lines =>
      if isBlankLine line then
        let (count, rest) := spanBlankLines (next :: lines)
        (count + 1, rest)
      else (0, line :: next :: lines)
  | lines => (0, lines)

/-- The number of blank lines in front of a body, and the body behind them. -/
def dropBlankLines (body : String) : Nat × String :=
  let (count, lines) := spanBlankLines (splitOn '\n' body.toList)
  (count, String.ofList (joinWith '\n' lines))

/-! ## Reading -/

/-- Gives an error the page and the place in its whole text. -/
def locate (fault : Fault) (page : String) (lines offset : Nat) : Fault :=
  match fault with
  | .malformed error => .malformed (error.inPage page lines offset)
  | fault => fault

/-- The page of a text: front matter, blank lines that are dropped, and a body. -/
def parse (id path text : String) : Except Fault Page := do
  let (matter, afterMatter) ← FrontMatter.parse text (some id)
  let (blankLines, body) := dropBlankLines afterMatter
  let lines := (matter.elim 0 FrontMatter.lineCount) + blankLines
  let nodes ← (parseTemplate body).mapError fun fault =>
    locate fault id lines (text.length - body.length)
  return {
    id := id
    path := path
    arguments := matter.elim [] FrontMatter.arguments
    layout := matter.bind FrontMatter.layout
    nodes := nodes }

/-- The name that stands for a text without a page. -/
def inlineId : String := "<inline>"

/-- A page of its own for a text: no front matter is looked for and no layout is applied. -/
def ofText (text : String) : Except Fault Page := do
  let nodes ← (parseTemplate text).mapError fun fault => locate fault inlineId 0 0
  return ⟨inlineId, "", [], some FrontMatter.noLayout, nodes⟩

end Page

end Folio
