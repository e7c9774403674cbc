/-!
Contract: sets of characters given as ranges of code points.

Owns: the test whether a character lies in one of the ranges of a table.
Does not own: the tables, each of which stands in the module of its property.
-/

namespace Folio.Text

/-- Inclusive ranges of code points, in ascending order. -/
abbrev Ranges := List (Nat × Nat)

def Ranges.has (ranges : Ranges) (char : Char) : Bool :=
  ranges.any fun range => range.1 ≤ char.toNat && char.toNat ≤ range.2

end Folio.Text
