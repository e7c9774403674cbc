/-!
Contract: places in a template text.

Owns: offset, line and column of a place, and how reading characters moves it.
-/

namespace Folio.Template

/-- Offsets count from nought, lines and columns from one, unless a text starts elsewhere. -/
structure Position where
  offset : Int
  line : Int
  column : Int
deriving DecidableEq, Repr, Inhabited

namespace Position

def start : Position := ⟨0, 1, 1⟩

/-- The place behind a character: a line break ends the line. -/
def after (place : Position) (char : Char) : Position :=
  if char = '\n' then ⟨place.offset + 1, place.line + 1, 1⟩
  else ⟨place.offset + 1, place.line, place.column + 1⟩

def past (place : Position) (chars : List Char) : Position :=
  chars.foldl after place

@[simp] theorem past_nil (place : Position) : place.past [] = place := rfl

@[simp] theorem past_cons (place : Position) (char : Char) (rest : List Char) :
    place.past (char :: rest) = (place.after char).past rest := rfl

theorem past_append (place : Position) (front back : List Char) :
    place.past (front ++ back) = (place.past front).past back := by
  simp [past]

end Position

end Folio.Template
