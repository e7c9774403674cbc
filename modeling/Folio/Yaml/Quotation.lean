import Folio.Text.Hex
import Folio.Yaml.LoadError
import Folio.Yaml.Place

/-!
Contract: scalars of a YAML text as they are written.

Owns: plain, quoted and block scalars with their escapes, the folding of their lines, and the indentation
and chomping of blocks.
Does not own: the value that a scalar stands for.

Every function takes a limit on its steps. The number of characters ahead is always enough, because each
step reads at least one of them.
-/

namespace Folio.Yaml

open Folio.Text

/-! ## Plain scalars -/

/-- The characters of a plain scalar up to a blank or an indicator. -/
def plainRun (inFlow : Bool) : List Char → List Char
  | [] => []
  | char :: rest =>
      let next := rest.headD endMark
      if char = ':' && !endsWord next then char :: plainRun inFlow rest
      else if char = '?' then char :: plainRun inFlow rest
      else if endsWord char || char = ':' then []
      else if inFlow && (char = ',' || char = '[' || char = ']' || char = '{' || char = '}') then []
      else char :: plainRun inFlow rest

/-- Further line breaks and spaces; `none` where a document marker follows a break. -/
def plainBreaks : Nat → Place → Option (List Char × Place)
  | 0, place => some ([], place)
  | limit + 1, place =>
      if place.front = ' ' then plainBreaks limit place.step
      else if isBreak place.front then
        let (kept, place) := place.takeBreak
        if place.atSeparator then none
        else (plainBreaks limit place).map fun (breaks, after) => (kept ++ breaks, after)
      else some ([], place)

/-- What separates two runs of a plain scalar. A single line break counts as a space. -/
structure PlainGap where
  text : List Char
  place : Place
  crossedLine : Bool

def plainGap (place : Place) : PlainGap :=
  let (spaces, place) := place.span (· = ' ')
  if isBreak place.front then
    let (kept, place) := place.takeBreak
    if place.atSeparator then ⟨[], place, true⟩
    else match plainBreaks (place.chars.length + 1) place with
      | none => ⟨[], place, true⟩
      | some (breaks, after) =>
          let front := if kept != ['\n'] then kept else if breaks.isEmpty then [' '] else []
          ⟨front ++ breaks, after, true⟩
  else ⟨spaces, place, false⟩

/-- The text of a plain scalar, the place behind it, and whether it ends at the start of a line. -/
def plainScalar (inFlow : Bool) (indent : Int) : Nat → Place → List Char → Bool →
    List Char × Place × Bool
  | 0, place, _, newLine => ([], place, newLine)
  | limit + 1, place, gap, newLine =>
      let run := if place.front = '#' then [] else plainRun inFlow place.chars
      if run.isEmpty then ([], place, newLine)
      else
        let next := plainGap (place.skip run.length)
        if next.text.isEmpty || next.place.front = '#' ||
            (!inFlow && (next.place.column : Int) < indent) then
          (gap ++ run, next.place, next.crossedLine)
        else
          let (more, after, newLine) :=
            plainScalar inFlow indent limit next.place next.text next.crossedLine
          (gap ++ run ++ more, after, newLine)

/-! ## Quoted scalars -/

def escapes : List (Char × Char) :=
  [('0', '\x00'), ('a', '\x07'), ('b', '\x08'), ('t', '\t'), ('\t', '\t'), ('n', '\n'), ('v', '\x0b'),
    ('f', '\x0c'), ('r', '\r'), ('e', '\x1b'), (' ', ' '), ('"', '"'), ('/', '/'), ('\\', '\\'),
    ('N', '\u0085'), ('_', '\u00a0'), ('L', '\u2028'), ('P', '\u2029')]

/-- The number of digits behind the letter of a numbered escape. -/
def escapeWidth? (char : Char) : Option Nat :=
  if char = 'x' then some 2 else if char = 'u' then some 4 else if char = 'U' then some 8 else none

/-- Line breaks and blanks inside quotes; no document marker may start a line. -/
def quotedBreaks : Nat → Place → Option (List Char × Place)
  | 0, _ => none
  | limit + 1, place =>
      if place.atSeparator then none
      else
        let place := (place.span fun char => char = ' ' || char = '\t').2
        if isBreak place.front then
          let (kept, place) := place.takeBreak
          (quotedBreaks limit place).map fun (breaks, after) => (kept ++ breaks, after)
        else some ([], place)

/-- Blanks or folded lines inside quotes. -/
def quotedGap (place : Place) : Option (List Char × Place) :=
  let (blanks, place) := place.span fun char => char = ' ' || char = '\t'
  if place.chars.isEmpty then none
  else if isBreak place.front then
    let (kept, place) := place.takeBreak
    (quotedBreaks (place.chars.length + 1) place).map fun (breaks, after) =>
      ((if kept != ['\n'] then kept else if breaks.isEmpty then [' '] else []) ++ breaks, after)
  else some (blanks, place)

/-- The character of a numbered escape. Numbers beyond the last character denote none, and the largest of them
are not even read. -/
def characterOf (code : Nat) : Except LoadError Char :=
  if code < 0x110000 then .ok (Char.ofNat code)
  else if code < 0x80000000 then
    .error (.mishap (.raised "ValueError" "chr() arg not in range(0x110000)"))
  else .error (.mishap (.raised "OverflowError" "Python int too large to convert to C int"))

/-- What a backslash in double quotes stands for, at the character behind it. -/
def quotedEscape (place : Place) : Except LoadError (List Char × Place) :=
  match escapes.lookup place.front with
  | some char => if place.chars.isEmpty then malformed else .ok ([char], place.step)
  | none =>
      match escapeWidth? place.front with
      | some width =>
          let digits := place.step.chars.take width
          match hexNumber? 0 digits with
          | some code =>
              if digits.length = width then
                (characterOf code).map fun char => ([char], place.step.skip width)
              else malformed
          | none => malformed
      | none =>
          if isBreak place.front then
            let place := place.takeBreak.2
            (quotedBreaks (place.chars.length + 1) place).elim malformed .ok
          else malformed

def isQuotedRunChar (char : Char) : Bool :=
  !(char = ' ' || char = '\t' || char = '\'' || char = '"' || char = '\\' || isBreak char)

/-- A part of a quoted scalar that is not its closing quote, and the place behind it. -/
def quotedPart (quote : Char) (place : Place) : Except LoadError (List Char × Place) :=
  let char := place.front
  if isQuotedRunChar char && !place.chars.isEmpty then .ok (place.span isQuotedRunChar)
  else if char = quote then .ok ([quote], place.skip 2)
  else if char = '\'' || char = '"' || (char = '\\' && quote = '\'') then .ok ([char], place.step)
  else if char = '\\' then quotedEscape place.step
  else (quotedGap place).elim malformed .ok

/-- A quote that ends the scalar; two single quotes in a row stand for one of them. -/
def closesQuoted (quote : Char) (place : Place) : Bool :=
  place.front = quote && !(quote = '\'' && place.ahead 1 = '\'')

/-- The text of a quoted scalar from behind its opening quote, and the place behind the closing one. -/
def quotedScalar (quote : Char) : Nat → Place → Except LoadError (List Char × Place)
  | 0, _ => malformed
  | limit + 1, place =>
      if closesQuoted quote place then .ok ([], place.step)
      else do
        let (text, after) ← quotedPart quote place
        let (more, last) ← quotedScalar quote limit after
        return (text ++ more, last)

/-! ## Block scalars -/

/-- The last line breaks of a block: all kept, none kept, or one kept. -/
inductive Chomping where
  | keep
  | strip
  | clip
deriving DecidableEq, Repr

def chomping? (char : Char) : Option Chomping :=
  if char = '+' then some .keep else if char = '-' then some .strip else none

/-- An indentation of one to nine. -/
def indentDigit? (char : Char) : Option Nat :=
  if '1' ≤ char && char ≤ '9' then some (char.toNat - 48) else none

/-- The indicators behind the one that opens a block, in either order. -/
def blockIndicators (place : Place) : Chomping × Option Nat × Place :=
  match chomping? place.front with
  | some chomping =>
      match indentDigit? place.step.front with
      | some indent => (chomping, some indent, place.skip 2)
      | none => (chomping, none, place.step)
  | none =>
      match indentDigit? place.front with
      | some indent =>
          match chomping? place.step.front with
          | some chomping => (chomping, some indent, place.skip 2)
          | none => (.clip, some indent, place.step)
      | none => (.clip, none, place)

/-- The rest of the line that opens a block: spaces and a comment at most. -/
def blockHeaderEnd (place : Place) : Option Place :=
  if !(place.front = ' ' || isBreak place.front || place.chars.isEmpty) then none
  else
    let place := place.skipSpaces
    let place := if place.front = '#' then (place.span fun char => !endsLine char).2 else place
    if isBreak place.front || place.chars.isEmpty then some place.takeBreak.2 else none

/-- Blank lines before a block, the widest indentation found in front of it, and the indentation of its
first blank line. -/
def blockLead : Nat → Place → Nat → Option Nat → List Char × Nat × Option Nat × Place
  | 0, place, widest, first => ([], widest, first, place)
  | limit + 1, place, widest, first =>
      if isBreak place.front then
        let (kept, after) := place.takeBreak
        let (breaks, widest, first, last) :=
          blockLead limit after widest (some (first.getD place.column))
        (kept ++ breaks, widest, first, last)
      else if place.front = ' ' then
        blockLead limit place.step (max widest place.step.column) first
      else ([], widest, first, place)

/-- Spaces up to an indentation. -/
def skipIndent (indent : Nat) : Nat → Place → Place
  | 0, place => place
  | limit + 1, place =>
      if place.column < indent && place.front = ' ' then skipIndent indent limit place.step else place

/-- The blank lines between two lines of a block. -/
def blockBreaks (indent : Nat) : Nat → Place → List Char × Place
  | 0, place => ([], place)
  | limit + 1, place =>
      let place := skipIndent indent (place.chars.length + 1) place
      if isBreak place.front then
        let (kept, place) := place.takeBreak
        let (breaks, after) := blockBreaks indent limit place
        (kept ++ breaks, after)
      else ([], place)

def startsBlank (place : Place) : Bool :=
  place.front = ' ' || place.front = '\t'

/-- The lines of a block from a first line on, with the breaks that stand before it. In a folded block a
line break between two lines that start with no blank becomes a space. -/
def blockLines (folded topLevel : Bool) (chomping : Chomping) (indent : Nat) :
    Nat → Place → List Char → List Char → List Char × Place
  | 0, place, _, _ => ([], place)
  | limit + 1, place, lineBreak, breaks =>
      let tail :=
        match chomping with
        | .keep => lineBreak ++ breaks
        | .clip => lineBreak
        | .strip => []
      if place.column = indent && !place.chars.isEmpty then
        let (line, after) := place.span fun char => !endsLine char
        let (lineBreak, after) := after.takeBreak
        let (nextBreaks, next) := blockBreaks indent (after.chars.length + 1) after
        let atEnd := topLevel && next.column = 0 && next.atSeparator
        if !atEnd && next.column = indent && !next.chars.isEmpty then
          let joint :=
            if folded && lineBreak = ['\n'] && !startsBlank place && !startsBlank next then
              if nextBreaks.isEmpty then [' '] else []
            else lineBreak
          let (more, last) := blockLines folded topLevel chomping indent limit next lineBreak nextBreaks
          (breaks ++ line ++ joint ++ more, last)
        else
          let tail :=
            match chomping with
            | .keep => lineBreak ++ nextBreaks
            | .clip => lineBreak
            | .strip => []
          (breaks ++ line ++ tail, next)
      else (tail, place)

/-- The text of a block scalar from behind its opening indicator, in a block of the given indentation. -/
def blockScalar (folded : Bool) (parentIndent : Int) (place : Place) : Option (List Char × Place) :=
  let (chomping, width, place) := blockIndicators place
  match blockHeaderEnd place with
  | none => none
  | some place =>
      let least := parentIndent + 1
      match width with
      | some width =>
          let indent := ((max least 1) + width - 1).toNat
          let (breaks, place) := blockBreaks indent (place.chars.length + 1) place
          some (blockLines folded false chomping indent (place.chars.length + 1) place [] breaks)
      | none =>
          let (breaks, widest, first, place) := blockLead (place.chars.length + 1) place 0 none
          let first := first.getD 0
          if 0 < first && first < widest then none
          else
            let indent := (max least widest).toNat
            some (blockLines folded (least == 0) chomping indent (place.chars.length + 1) place []
              breaks)

end Folio.Yaml
