import Folio.Markdown.Span
import Folio.Text.Digit
import Folio.Text.Split

/-!
Contract: chunks of lines between empty lines.

Owns: cutting a text into chunks and lines, indentation, and what the lines of a chunk are: headings, rules,
items, quotes and code.
-/

namespace Folio.Markdown

open Folio.Text

/-! ## Lines -/

abbrev Line := List Span

def linesOf (chunk : List Span) : List Line :=
  splitWhere (·.isMark '\n') chunk

def joinLines (lines : List Line) : List Span :=
  joinWith (.mark '\n') lines

/-- The chunks of a text: the lines between empty ones. Of several empty lines in a row each second one starts the
next chunk. -/
def chunksOf : List Line → List (List Span)
  | [] => [[]]
  | line :: lines =>
      match lines with
      | [] => [line]
      | next :: rest =>
          if next.isEmpty && !rest.isEmpty then line :: chunksOf rest
          else match chunksOf (next :: rest) with
            | [] => [line]
            | chunk :: chunks => (line ++ .mark '\n' :: chunk) :: chunks

/-! ## Indentation -/

def indentWidth : Nat := 4

def spacesInFront (line : Line) : Nat :=
  countMarks ' ' line

def isIndented (line : Line) : Bool :=
  indentWidth ≤ spacesInFront line

/-- Takes an indentation of so many levels from each line that has it. -/
def shiftLines (levels : Nat) (chunk : List Span) : List Span :=
  let width := indentWidth * levels
  joinLines ((linesOf chunk).map fun line => if width ≤ spacesInFront line then line.drop width else line)

/-- Up to three spaces in front are no indentation. -/
def dropMargin (line : Line) : Line :=
  if isIndented line then line else line.drop (spacesInFront line)

/-- The lines in front that are indented or blank, without their indentation, and the lines behind. -/
def spanCode : List Line → List Line × List Line
  | [] => ([], [])
  | line :: lines =>
      if isIndented line || isBlankRow line then
        let (code, rest) := spanCode lines
        ((if isIndented line then line.drop indentWidth else []) :: code, rest)
      else ([], line :: lines)

/-! ## Headings and rules -/

/-- A heading without the number signs at its end; a lone backslash at the end makes it none. -/
def headingText : Line → Option (List Span)
  | [] => some []
  | .mark '\\' :: rest =>
      match rest with
      | [] => none
      | span :: rest => (headingText rest).map fun text => .mark '\\' :: span :: text
  | span :: rest =>
      if (span :: rest).all (·.isMark '#') then some [] else (headingText rest).map (span :: ·)

/-- The level and the text of a line of heading. -/
def headingLine? (line : Line) : Option (Nat × List Span) :=
  let level := min 6 (countMarks '#' line)
  if level = 0 then none else (headingText (line.drop level)).map fun text => (level, trim text)

/-- The first line of a class, with the lines before and behind it. -/
def findLine {α : Type} (read : Line → Option α) : List Line → Option (List Line × α × List Line)
  | [] => none
  | line :: lines =>
      match read line with
      | some found => some ([], found, lines)
      | none => (findLine read lines).map fun (before, found, after) => (line :: before, found, after)

/-- A row of signs that makes a heading of the line above it. -/
def underlineLevel? (line : Line) : Option Nat :=
  let rest := line.dropWhile fun span => span.isMark '=' || span.isMark '-'
  if rest.length < line.length && rest.all (·.isMark ' ') then
    some (if line.head?.any (·.isMark '=') then 1 else 2)
  else none

/-- Signs of one kind with up to two spaces between them: their number, or nothing else. -/
def ruleSigns (sign : Char) : Nat → Line → Option Nat
  | _, [] => some 0
  | gap, span :: rest =>
      if span.isMark sign then (ruleSigns sign 0 rest).map (· + 1)
      else if span.isMark ' ' then
        if rest.all (·.isMark ' ') then some 0
        else if gap < 2 then ruleSigns sign (gap + 1) rest
        else none
      else none

def ruleLine? (line : Line) : Option Unit :=
  match dropMargin line with
  | .mark sign :: rest =>
      if sign = '-' || sign = '_' || sign = '*' then
        match ruleSigns sign 0 (.mark sign :: rest) with
        | some count => if 3 ≤ count then some () else none
        | none => none
      else none
  | _ => none

/-! ## Lists and quotes -/

def isDigitMark (span : Span) : Bool :=
  span.mark?.any isDigit

/-- The kind of an item and its text, if a line starts with the mark of an item. -/
def itemLine? (line : Line) : Option (Bool × List Span) :=
  let marked := dropMargin line
  let text? (isOrdered : Bool) (rest : Line) : Option (Bool × List Span) :=
    if spacesInFront rest = 0 then none else some (isOrdered, rest.drop (spacesInFront rest))
  match marked.takeWhile isDigitMark, marked.dropWhile isDigitMark with
  | _ :: _, .mark '.' :: rest => text? true rest
  | [], .mark sign :: rest =>
      if sign = '*' || sign = '+' || sign = '-' then text? false rest else none
  | _, _ => none

/-- An item that is indented once. -/
def isInnerItem (line : Line) : Bool :=
  isIndented line && (itemLine? (line.drop indentWidth)).isSome

/-- The texts of the items of a chunk, newest first. An item that is indented stays with its indentation, and
other lines belong to the item before them. -/
def itemTexts : List Line → List (List Span) → List (List Span)
  | [], texts => texts
  | line :: lines, texts =>
      match itemLine? line with
      | some (_, text) => itemTexts lines (text :: texts)
      | none =>
          match texts with
          | [] => itemTexts lines [line]
          | last :: earlier =>
              if isInnerItem line && !isIndented last then itemTexts lines (line :: last :: earlier)
              else itemTexts lines ((last ++ .mark '\n' :: line) :: earlier)

/-- The text of a line of a quote behind its mark. -/
def quoteLine? (line : Line) : Option Line :=
  match dropMargin line with
  | .mark '>' :: .mark ' ' :: rest => some rest
  | .mark '>' :: rest => some rest
  | _ => none

def isLoneQuoteMark (line : Line) : Bool :=
  match trim line with
  | [.mark '>'] => true
  | _ => false

/-- A line of a quote without its mark, which later lines may leave out. -/
def cleanQuoteLine (line : Line) : Line :=
  if isLoneQuoteMark line then [] else (quoteLine? line).getD line

/-! ## Shapes -/

/-- What a chunk without indentation is. -/
inductive Shape where
  | heading (before : List Line) (level : Nat) (text : List Span) (after : List Line)
  | rule (before after : List Line)
  | list (isOrdered : Bool) (texts : List (List Span))
  | quote (before inside : List Line)
  | text
deriving Repr

/-- A heading that is underlined by the second line. -/
def underlined? (lines : List Line) : Option Shape :=
  match lines with
  | first :: second :: rest =>
      (underlineLevel? second).map fun level => .heading [] level (trim first) rest
  | _ => none

def heading? (lines : List Line) : Option Shape :=
  (findLine headingLine? lines).map fun (before, (level, text), after) =>
    .heading before level text after

def rule? (lines : List Line) : Option Shape :=
  (findLine ruleLine? lines).map fun (before, _, after) =>
    .rule (before.reverse.dropWhile List.isEmpty).reverse (after.dropWhile List.isEmpty)

def list? (lines : List Line) : Option Shape :=
  (lines.head?.bind itemLine?).map fun (isOrdered, _) => .list isOrdered (itemTexts lines []).reverse

def quote? (lines : List Line) : Option Shape :=
  (findLine quoteLine? lines).map fun (before, _, _) =>
    let inside := (lines.drop before.length).map cleanQuoteLine
    .quote before (if before.isEmpty then inside else [] :: inside)

/-- What a chunk is, by the first kind that fits. -/
def shapeOf (chunk : List Span) : Shape :=
  let lines := linesOf chunk
  ([heading?, underlined?, rule?, list?, quote?].findSome? fun kind => kind lines).getD .text

end Folio.Markdown
