import Folio.Mishap
import Folio.Template.SyntaxError

/-!
Contract: the errors that end a render, a check or a command.

Owns: the errors that a template author can mend, each with what its message names, and the failures of
single operations that no filter has taken over.
-/

namespace Folio

open Folio.Number Folio.Template

/-- What is wrong with settings; `source` is the file or place that they come from. -/
inductive SettingsError where
  | unknownKey (source key : String)
  | wrongKind (source key expected given : String)
  | depthNotPositive (source : String)
  | depthTooLarge (source : String) (limit : Int)
  | bindingNotIdentifier (source : String)
  | malformed (source : String)
  | repeatedKey (source : String)
  | notMapping (source : String)
  | fileNotFound (path : String)
deriving DecidableEq, Repr

/-- The message about a repeated key ends with a line break. -/
def SettingsError.message : SettingsError → String
  | .unknownKey source key => source ++ ": unknown settings key '" ++ key ++ "'"
  | .wrongKind source key expected given =>
      source ++ ": '" ++ key ++ "' must be " ++ expected ++ ", got " ++ given
  | .depthNotPositive source => source ++ ": 'max_depth' must be positive"
  | .depthTooLarge source limit =>
      source ++ ": 'max_depth' must not exceed " ++ wholeText limit
  | .bindingNotIdentifier source => source ++ ": 'default_binding' must be an identifier"
  | .malformed source => source ++ ": invalid YAML"
  | .repeatedKey source => source ++ ": invalid YAML\n"
  | .notMapping source => source ++ ": settings root must be a mapping"
  | .fileNotFound path => "Settings file not found: " ++ path

inductive Fault where
  | malformed (error : SyntaxError)
  | notFound (kind name : String)
  | unknownFilter (name : String)
  | wrongArity (name : String) (given least : Int) (most : Option Int)
  | filterFailed (name message : String)
  | tooDeep (limit : Int) (target : String)
  | settings (cause : SettingsError)
  | mishap (cause : Mishap)
deriving DecidableEq, Repr

namespace Fault

/-- How many arguments a filter takes, in words. -/
def expectedArguments (least : Int) (most : Option Int) : String :=
  match most with
  | none => "at least " ++ wholeText least
  | some most =>
      if least = most then wholeText least else wholeText least ++ ".." ++ wholeText most

def message : Fault → String
  | .malformed error => error.message
  | .notFound kind name => "Template " ++ kind ++ " not found: '" ++ name ++ "'"
  | .unknownFilter name => "Filter '" ++ name ++ "': unknown filter"
  | .wrongArity name given least most =>
      "Filter '" ++ name ++ "': expected " ++ expectedArguments least most ++ " argument(s), got " ++
        wholeText given
  | .filterFailed name message => "Filter '" ++ name ++ "': " ++ message
  | .tooDeep limit target =>
      "Maximum composition depth " ++ wholeText limit ++ " exceeded" ++
        (if target == "" then "" else " while rendering '" ++ target ++ "'")
  | .settings cause => cause.message
  | .mishap cause => cause.message

/-- An error of a template, as opposed to a failure of a single operation. -/
def isTemplateFault : Fault → Bool
  | .mishap _ => false
  | _ => true

end Fault

end Folio
