import Folio.Text.Quoted
import Folio.Value.Calendar

/-!
Contract: failures of single operations, before anybody knows which page or filter they belong to.

Owns: one constructor per cause, the wording of each, and the kind it is reported as. A filter that meets
one of these is reported as failed; outside a filter it ends the render as it is.
Does not own: the errors of templates, which carry a place or a name of their own.
-/

namespace Folio

open Folio.Text Folio.Number

inductive Mishap where
  | numeral (cause : NumeralError)
  | calendar (cause : CalendarError)
  | emptyPath
  | invalidPath (path : String)
  | escapingPath (path : String)
  | nullInPath
  | invalidBinding (shown : String)
  | rootNotFound (root : String)
  | argumentWithoutValue (item : String)
  | argumentWithoutKey (item : String)
  | notAString (kind : String)
  | notACollection (kind : String)
  | notAPageName (shown : String)
  | argumentsNotAnObject (kind : String)
  | notAnInlineTemplate (kind : String)
  | notRepeatable (kind : String)
  | keyWithoutText (kind : String)
  | unkeyable (kind : String)
  | frozenRegistry (name : String)
  | raised (kind message : String)
deriving DecidableEq, Repr

/-- At most this many characters of a refused numeral are shown. -/
def shownNumeralLimit : Nat := 200

def digitLimitText : String :=
  "Exceeds the limit (" ++ wholeText digitLimit ++ " digits) for integer string conversion"

def digitLimitAdvice : String :=
  "; use sys.set_int_max_str_digits() to increase the limit"

def numeralMessage : NumeralError → String
  | .notWhole text =>
      "invalid literal for int() with base 10: " ++ ((quoted text).take shownNumeralLimit).toString
  | .notReal text => "could not convert string to float: " ++ quoted text
  | .tooLongToRead digits =>
      digitLimitText ++ ": value has " ++ wholeText digits ++ " digits" ++ digitLimitAdvice
  | .tooLongToWrite => digitLimitText ++ digitLimitAdvice

namespace Mishap

def message : Mishap → String
  | .numeral cause => numeralMessage cause
  | .calendar cause => cause.message
  | .emptyPath => "Empty template path"
  | .invalidPath path => "Invalid template path: " ++ quoted path
  | .escapingPath path => "Template path escapes root: " ++ quoted path
  | .nullInPath => "embedded null byte"
  | .invalidBinding shown => "invalid binding name " ++ quoted shown
  | .rootNotFound root => "Template root not found: " ++ root
  | .argumentWithoutValue item =>
      "Invalid argument format '" ++ item ++ "'. Expected 'KEY=VALUE'"
  | .argumentWithoutKey item => "Invalid argument format '" ++ item ++ "'. Empty key"
  | .notAString kind => "expected a string, got " ++ kind
  | .notACollection kind => "expected a collection, got " ++ kind
  | .notAPageName shown => "expected a page name, got " ++ quoted shown
  | .argumentsNotAnObject kind => "arguments must be an object, got " ++ kind
  | .notAnInlineTemplate kind => "expected an inline template string, got " ++ kind
  | .notRepeatable kind => "forEach expects a collection, got " ++ kind
  | .keyWithoutText kind => "keys must be str, int, float, bool or None, not " ++ kind
  | .unkeyable kind => "unhashable type: '" ++ kind ++ "'"
  | .frozenRegistry name => "Filter registry is frozen; cannot register '" ++ name ++ "'"
  | .raised _ message => message

/-- The kind under which a failure is reported, also used as its text when the message is empty. -/
def kindName : Mishap → String
  | .numeral _ | .calendar _ | .emptyPath | .invalidPath _ | .escapingPath _ | .nullInPath
  | .invalidBinding _ | .rootNotFound _ | .argumentWithoutValue _ | .argumentWithoutKey _ =>
      "ValueError"
  | .notAString _ | .notACollection _ | .notAPageName _ | .argumentsNotAnObject _
  | .notAnInlineTemplate _ | .notRepeatable _ | .keyWithoutText _ | .unkeyable _ => "TypeError"
  | .frozenRegistry _ => "RuntimeError"
  | .raised kind _ => kind

end Mishap

end Folio
