import Folio.Filter.Registry
import Folio.Markdown.Document
import Folio.Text.LetterCase
import Folio.Value.Text

/-!
Contract: the filters that every site starts with.

Owns: the plain standard filters, and the registries of standard filters with and without the one for
Markdown. `partial` and `forEach` are registered here and run by the renderer.
-/

namespace Folio

open Folio.Text

/-! ## Plain filters -/

/-- The first argument in place of a missing value. -/
def otherwiseFilter (value : Value) (arguments : List Value) : Except Fault Value :=
  match value with
  | .null => .ok (arguments.headD .null)
  | value => .ok value

/-- A change of a text; a missing value stays missing. -/
def textFilter (change : String → String) (value : Value) (_ : List Value) : Except Fault Value :=
  match value with
  | .null => .ok .null
  | .str text => .ok (.str (change text))
  | value => .error (.mishap (.notAString value.kindName))

/-- The values that a collection holds, without the keys of a mapping. -/
def Value.members? : Value → Option (List Value)
  | .map entries => some (entries.map Prod.snd)
  | value => value.items?

def joinTexts (separator : Value) (members : List Value) : Except Mishap String := do
  let separator ← separator.text
  let texts ← Value.texts members
  return separator.intercalate texts

def joinFilter (value : Value) (arguments : List Value) : Except Fault Value :=
  match value with
  | .null => .ok .null
  | value =>
      match value.members? with
      | some members =>
          ((joinTexts (arguments.headD (.str ",")) members).map .str).mapError .mishap
      | none => .error (.mishap (.notACollection value.kindName))

def rawFilter (value : Value) (_ : List Value) : Except Fault Value :=
  .ok value

def markdownFilter (value : Value) (_ : List Value) : Except Fault Value :=
  match value with
  | .null => .ok .null
  | value => (value.text.map fun text => .str (Markdown.render text)).mapError .mishap

/-! ## Registries -/

def partialName : String := "partial"

def forEachName : String := "forEach"

/-- The specification of a standard filter. -/
def standardSpec (name : String) (action : FilterAction) (parameters : List Parameter) : FilterSpec :=
  ⟨name, action, Arity.ofParameters parameters action.filledParameters⟩

def standardSpecs : List FilterSpec :=
  let value := Parameter.required "value"
  let context := Parameter.required "context"
  [standardSpec "otherwise" (.plain otherwiseFilter) [value, .required "default"],
    standardSpec "upper" (.plain (textFilter upper)) [value],
    standardSpec "lower" (.plain (textFilter lower)) [value],
    standardSpec "join" (.plain joinFilter) [value, .optional "separator"],
    standardSpec "raw" (.plain rawFilter) [value],
    standardSpec partialName .includePage [context, value, .optional "arguments"],
    standardSpec forEachName .repeatTemplate
      [context, value, .required "collection", .optional "binding"]]

def markdownSpec : FilterSpec :=
  standardSpec "markdown" (.plain markdownFilter) [.required "value"]

namespace FilterRegistry

def standard : FilterRegistry := ⟨standardSpecs, false⟩

def standardWithMarkdown : FilterRegistry := standard.put markdownSpec

end FilterRegistry

end Folio
