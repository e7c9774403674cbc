/-!
Contract: texts cut at a separator.

Owns: cutting a row of characters, or of anything else, at every occurrence of a separator, and the converse.
The parts are never fewer than one, and neighbouring separators leave an empty part between them.
-/

namespace Folio.Text

def splitOn (separator : Char) : List Char → List (List Char)
  | [] => [[]]
  | char :: rest =>
      if char = separator then [] :: splitOn separator rest
      else match splitOn separator rest with
        | [] => [[char]]
        | part :: parts => (char :: part) :: parts

/-- The parts of a text, as texts. -/
def splitText (separator : Char) (text : String) : List String :=
  (splitOn separator text.toList).map String.ofList

/-- The parts between the members of a row that separate. -/
def splitWhere {α : Type} (separates : α → Bool) : List α → List (List α)
  | [] => [[]]
  | member :: rest =>
      if separates member then [] :: splitWhere separates rest
      else match splitWhere separates rest with
        | [] => [[member]]
        | part :: parts => (member :: part) :: parts

/-- Joins parts with a separator in between. -/
def joinWith {α : Type} (separator : α) : List (List α) → List α
  | [] => []
  | [part] => part
  | part :: next :: parts => part ++ separator :: joinWith separator (next :: parts)

end Folio.Text
