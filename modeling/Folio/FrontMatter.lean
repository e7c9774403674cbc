import Folio.Fault
import Folio.Text.Blank
import Folio.Text.LetterCase
import Folio.Text.Split
import Folio.Value.Text
import Folio.Yaml.Load

/-!
Contract: the front matter of a page.

Owns:
- finding the block: a page may open with a fence, which is a line of three hyphens and blanks, and the block
  runs to a later fence;
- the arguments that the block gives, and the layout that it names or turns off.

The line just behind the opening fence closes the block only where no later line does.
-/

namespace Folio

open Folio.Text Folio.Template

/-- Which layout a page asks for: the nearest one, none at all, or one by its name. An empty name is the
same as none. -/
structure FrontMatter where
  arguments : Entries
  layout : Option String
  lineCount : Nat
  length : Nat
deriving Repr

namespace FrontMatter

def layoutKey : String := "layout"

/-- The layout of a page that turns layouts off. -/
def noLayout : String := ""

def isEmpty (matter : FrontMatter) : Bool :=
  matter.arguments.isEmpty && matter.layout.isNone

/-- The layout that a value of the reserved key stands for. -/
def layoutOf : Value → Except Mishap (Option String)
  | .null => .ok none
  | .bool false => .ok (some noLayout)
  | .str text =>
      .ok (some (if lower (stripText text) == "none" then noLayout else stripText text))
  | value => value.spelled.map fun text => some (stripText text)

/-- The front matter of a mapping, in a block that took so many lines and characters. -/
def ofEntries (entries : Entries) (lineCount length : Nat) : Except Mishap FrontMatter := do
  let layout ← layoutOf ((Entries.named? entries layoutKey).getD .null)
  return ⟨Entries.without entries layoutKey, layout, lineCount, length⟩

/-! ## The block -/

def isLineBlank (char : Char) : Bool :=
  char = ' ' || char = '\t'

/-- A line of three hyphens and blanks. A carriage return belongs to the end of a line, which the last
line of a text has not. -/
def isFence (isLast : Bool) : List Char → Bool
  | '-' :: '-' :: '-' :: rest =>
      let rest := rest.dropWhile isLineBlank
      rest.isEmpty || (!isLast && rest == ['\r'])
  | _ => false

/-- The lines before the first fence, and those behind it. -/
def spanFence : List (List Char) → Option (List (List Char) × List (List Char))
  | [] => none
  | line :: lines =>
      if isFence lines.isEmpty line then some ([], lines)
      else (spanFence lines).map fun (inside, after) => (line :: inside, after)

/-- The lines of the block between its fences, and the lines behind it. -/
def blockLines : List (List Char) → Option (List (List Char) × List (List Char))
  | opening :: first :: lines =>
      if isFence false opening then
        match spanFence lines with
        | some (inside, after) => some (first :: inside, after)
        | none => if isFence lines.isEmpty first then some ([], lines) else none
      else none
  | _ => none

/-- A text without one carriage return at its end. -/
def dropReturn (chars : List Char) : List Char :=
  if chars.getLast? == some '\r' then chars.dropLast else chars

/-- What stands between the fences, the size of the block with its fences, and the text behind it. -/
structure Block where
  content : List Char
  lineCount : Nat
  length : Nat
  rest : List Char
deriving Repr

def findBlock (chars : List Char) : Option Block :=
  (blockLines (splitOn '\n' chars)).map fun (inside, after) =>
    let rest := joinWith '\n' after
    ⟨dropReturn (joinWith '\n' inside), inside.length + 1 + (if after.isEmpty then 0 else 1),
      chars.length - rest.length, rest⟩

/-! ## Reading -/

def faultAt (page : Option String) (cause : SyntaxCause) : Fault :=
  .malformed ⟨cause, .start, page⟩

/-- The front matter of a block. -/
def ofBlock (block : Block) (page : Option String) : Except Fault FrontMatter :=
  match Yaml.load (String.ofList block.content) with
  | .ok .null => .ok ⟨[], none, block.lineCount, block.length⟩
  | .ok (.map entries) => (ofEntries entries block.lineCount block.length).mapError .mishap
  | .ok _ => .error (faultAt page .frontMatterNotMapping)
  | .error (.mishap cause) => .error (.mishap cause)
  | .error _ => .error (faultAt page .invalidFrontMatter)

/-- The front matter of a page text, if it has any, and the text behind it. -/
def parse (text : String) (page : Option String) : Except Fault (Option FrontMatter × String) :=
  match findBlock text.toList with
  | none => .ok (none, text)
  | some block => do
      let matter ← ofBlock block page
      return (some matter, String.ofList block.rest)

end FrontMatter

end Folio
