import Folio.Mishap

/-!
Contract: what is wrong with a YAML text.

Owns: the kinds of faults that keep a text from having a value, and the refusal of a malformed text.
Does not own: which of several faults is reported.
-/

namespace Folio.Yaml

/-- What is wrong with a text: its form, a key that a mapping holds twice, or something that looks right and
does not exist, such as a date or a character. -/
inductive LoadError where
  | malformed
  | repeatedKey
  | mishap (cause : Mishap)
deriving DecidableEq, Repr

/-- The refusal of a text that is not well formed. -/
def malformed {α : Type} : Except LoadError α := .error .malformed

end Folio.Yaml
