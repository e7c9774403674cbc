import Folio.Text.Ranges

/-!
Contract: places in a YAML text.

Owns: the characters ahead with their line and column, moving over them, the classes of characters that
end a line or a word, and the characters that a YAML text may hold at all.
-/

namespace Folio.Yaml

open Folio.Text

/-- The characters that are left, and where the first of them stands. -/
structure Place where
  chars : List Char
  index : Nat
  line : Nat
  column : Nat
deriving Repr

/-- Stands for the end of the text; no text holds it. -/
def endMark : Char := '\x00'

def printables : Ranges :=
  [(0x9, 0xa), (0xd, 0xd), (0x20, 0x7e), (0x85, 0x85), (0xa0, 0xd7ff), (0xe000, 0xfffd),
    (0x10000, 0x10ffff)]

def isBreak (char : Char) : Bool :=
  char = '\n' || char = '\r' || char = '\u0085' || char = '\u2028' || char = '\u2029'

/-- Ends a line of text or a comment. -/
def endsLine (char : Char) : Bool :=
  isBreak char || char = endMark

/-- Ends a word of a plain scalar and follows an indicator. -/
def endsWord (char : Char) : Bool :=
  endsLine char || char = ' ' || char = '\t'

namespace Place

def start (chars : List Char) : Place := ⟨chars, 0, 0, 0⟩

/-- The character so many steps ahead. -/
def ahead (place : Place) (count : Nat) : Char :=
  place.chars.getD count endMark

def front (place : Place) : Char :=
  place.chars.headD endMark

/-- One step. Lines are counted by line feeds and carriage returns alone, of which the latter count nothing
before the former. -/
def step (place : Place) : Place :=
  match place.chars with
  | [] => place
  | char :: rest =>
      if char = '\n' || (char = '\r' && rest.head? ≠ some '\n') then
        ⟨rest, place.index + 1, place.line + 1, 0⟩
      else if char = '\uFEFF' then ⟨rest, place.index + 1, place.line, place.column⟩
      else ⟨rest, place.index + 1, place.line, place.column + 1⟩

def skip (place : Place) : Nat → Place
  | 0 => place
  | count + 1 => place.step.skip count

/-- The longest row of characters of a class, and the place behind it. -/
def span (place : Place) (isMember : Char → Bool) : List Char × Place :=
  let chars := place.chars.takeWhile isMember
  (chars, place.skip chars.length)

def skipSpaces (place : Place) : Place :=
  (place.span (· = ' ')).2

/-- A line break as the text keeps it, and the place behind it; nothing where no line ends. -/
def takeBreak (place : Place) : List Char × Place :=
  let char := place.front
  if char = '\r' && place.ahead 1 = '\n' then (['\n'], place.skip 2)
  else if char = '\n' || char = '\r' || char = '\u0085' then (['\n'], place.step)
  else if char = '\u2028' || char = '\u2029' then ([char], place.step)
  else ([], place)

/-- A document marker of three equal characters stands here as a word of its own. -/
def atMarker (place : Place) (char : Char) : Bool :=
  place.front = char && place.ahead 1 = char && place.ahead 2 = char && endsWord (place.ahead 3)

def atSeparator (place : Place) : Bool :=
  place.atMarker '-' || place.atMarker '.'

end Place

end Folio.Yaml
