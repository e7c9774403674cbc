import Folio.Filter.Standard
import Folio.Render.Evaluate
import Folio.Settings
import Folio.Text.Identifier

/-!
Contract: templates, partials and repeated templates as text.

Owns:
- calling a filter: its name and the number of its arguments are checked first, and a failure of the call is
  reported under the filter's name unless it is an error of a template;
- including a page as a partial, and repeating an inline template over a collection;
- the levels of nesting. A template renders on a number of levels that are left below it; a partial or a
  repeated template takes one of them, and where none is left it is refused;
- a whole page in its layout.

Literal text is never changed.
-/

namespace Folio

open Folio.Text Folio.Template

/-- What a render works with and does not change. -/
structure Composer where
  settings : Settings
  library : Library
  registry : FilterRegistry

/-- Renders nodes one level below; nothing where no level is left. -/
abbrev Below := Option (List Node → Render String)

namespace Composer

/-- Refuses to go below the last level. -/
def goBelow (composer : Composer) (target : String) : Below → Render (List Node → Render String)
  | some render => pure render
  | none => throw (.tooDeep composer.settings.maxDepth target)

/-! ## Partials -/

/-- The arguments of the page give way to those of the call. -/
def includePage (composer : Composer) (below : Below) (name : String) (arguments : Entries) :
    Render String := do
  let render ← composer.goBelow name below
  let page ← Render.withCache (composer.library.getPage name Library.partialKind)
  Render.inChild (Entries.overlay page.arguments arguments) ("partial:" ++ page.id)
    (render page.nodes)

/-- What the text of a value looks like in quotes. -/
def refusal (refuse : String → Mishap) (value : Value) : Mishap :=
  match value.text with
  | .ok text => refuse text
  | .error cause => cause

/-- The page name and the arguments of a call that includes a page. -/
def includeArguments (value : Value) (arguments : List Value) :
    Except Mishap (String × Entries) :=
  match value with
  | .str name =>
      if name == "" then .error (refusal .notAPageName value)
      else match arguments.headD .null with
        | .null => .ok (name, [])
        | .map entries => .ok (name, entries)
        | other => .error (.argumentsNotAnObject other.kindName)
  | value => .error (refusal .notAPageName value)

/-! ## Repeated templates -/

def repeatLabel (binding : String) : String := "forEach:" ++ binding

/-- The name that the values of a repetition are bound to. An empty name is none. -/
def boundName (default : String) : Option String → String
  | none => default
  | some name => if name == "" then default else name

/-- The texts of nodes for one value after the other, joined. -/
def renderEach (render : List Node → Render String) (binding : String) (nodes : List Node) :
    List Value → Render String
  | [] => pure ""
  | value :: values => do
      let first ← Render.inChild [(.str binding, value)] (repeatLabel binding) (render nodes)
      let rest ← renderEach render binding nodes values
      return first ++ rest

/-- A missing collection gives an empty text before anything is checked. -/
def repeatTemplate (composer : Composer) (below : Below) (template : String) (collection : Value)
    (binding : Option String) : Render String :=
  match collection with
  | .null => pure ""
  | collection =>
      match collection.members? with
      | none => throw (.mishap (.notRepeatable collection.kindName))
      | some values => do
          let binding := boundName composer.settings.defaultBinding binding
          let render ← composer.goBelow (repeatLabel binding) below
          let nodes ← Render.withCache (inlineNodes template)
          renderEach render binding nodes values

/-- The binding that an optional argument names. -/
def bindingArgument : Value → Except Mishap (Option String)
  | .null => .ok none
  | .str name =>
      if isIdentifier name then .ok (some name) else .error (refusal .invalidBinding (.str name))
  | value => .error (refusal .invalidBinding value)

/-- The template, the collection and the binding of a call that repeats a template. -/
def repeatArguments (value : Value) (arguments : List Value) :
    Except Mishap (String × Value × Option String) :=
  match value with
  | .str template => do
      let binding ← bindingArgument (arguments.getD 1 .null)
      return (template, arguments.headD .null, binding)
  | value => .error (.notAnInlineTemplate value.kindName)

/-! ## Filters -/

def act (composer : Composer) (below : Below) (action : FilterAction) (value : Value)
    (arguments : List Value) : Render Value :=
  match action with
  | .plain run => Work.ofExcept (run value arguments)
  | .observing run => do
      let scope ← Render.scope
      Work.ofExcept (run scope value arguments)
  | .includePage => do
      let (name, entries) ← Work.ofExcept ((includeArguments value arguments).mapError .mishap)
      return .str (← composer.includePage below name entries)
  | .repeatTemplate => do
      let (template, collection, binding) ←
        Work.ofExcept ((repeatArguments value arguments).mapError .mishap)
      return .str (← composer.repeatTemplate below template collection binding)

/-- What a fault in a call of a filter is reported as. A failure without words is reported by its
kind. -/
def blame (name : String) : Fault → Fault
  | .mishap cause =>
      .filterFailed name (if cause.message == "" then cause.kindName else cause.message)
  | fault => fault

def call (composer : Composer) (below : Below) : FilterCall := fun name value arguments =>
  match composer.registry.find? name with
  | none => throw (.unknownFilter name)
  | some spec =>
      if spec.arity.accepts arguments.length then
        tryCatch (composer.act below spec.action value arguments) fun fault =>
          throw (blame name fault)
      else throw (.wrongArity name arguments.length spec.arity.least spec.arity.most)

/-! ## Nodes -/

def renderNode (composer : Composer) (below : Below) : Node → Render String
  | .literal text => pure text
  | .expression pipeline _ _ _ => do
      let value ← evaluatePipeline (composer.call below) pipeline
      Work.ofExcept (value.text.mapError .mishap)

def renderRow (composer : Composer) (below : Below) : List Node → Render String
  | [] => pure ""
  | node :: nodes => do
      let first ← composer.renderNode below node
      let rest ← renderRow composer below nodes
      return first ++ rest

/-- What renders below a template that has so many levels left. -/
def below (composer : Composer) : Nat → Below
  | 0 => none
  | level + 1 => some (composer.renderRow (composer.below level))

/-- The text of nodes with so many levels left below them. -/
def renderNodes (composer : Composer) (level : Nat) (nodes : List Node) : Render String :=
  composer.renderRow (composer.below level) nodes

/-- The levels left below a scope. -/
def levelsBelow (composer : Composer) (scope : Scope) : Nat :=
  (composer.settings.maxDepth - scope.nesting).toNat

/-! ## Pages and texts -/

/-- Runs a render in a scope of its own. -/
def inScope {α : Type} (scope : Scope) (work : Render α) : Work Cache α := fun cache =>
  let (result, after) := work ⟨scope, cache⟩
  (result, after.cache)

def rootLabel : String := "context"

def argumentsLabel : String := "args"

/-- The name under which a layout sees the text of the page. -/
def bodyName : String := "page"

/-- The scope of a page: what the site gives is outermost, then come the arguments of the layout, of the
page and of the render. -/
def pageScope (composer : Composer) (page : Page) (layout : Option Page) (arguments : Entries) :
    Scope :=
  let root := Scope.ofRoot composer.settings.arguments rootLabel
  let dressed :=
    match layout with
    | some layout => root.extend layout.arguments ("layout:" ++ layout.id)
    | none => root
  (dressed.extend page.arguments ("page:" ++ page.id)).extend arguments argumentsLabel

/-- Adds a binding for the rest of the render. -/
def bindRest (bindings : Entries) (label : String) : Render Unit :=
  fun session => (.ok (), { session with scope := session.scope.extend bindings label })

/-- The text of a page in its layout: first the page, then the layout around it. -/
def renderInLayout (composer : Composer) (page : Page) (layout : Option Page) : Render String := do
  let level := composer.levelsBelow .empty
  let body ← composer.renderNodes level page.nodes
  match layout with
  | none => return body
  | some layout => do
      bindRest [(.str bodyName, .str body)] "layout-body"
      composer.renderNodes level layout.nodes

def renderPage (composer : Composer) (page : Page) (arguments : Entries) : Work Cache String := do
  let layout ← composer.library.findLayout page composer.settings.layoutName
  inScope (composer.pageScope page layout arguments) (composer.renderInLayout page layout)

def textScope (composer : Composer) (arguments : Entries) : Scope :=
  (Scope.ofRoot composer.settings.arguments rootLabel).extend arguments argumentsLabel

/-- The text of a template that is no page: it has neither front matter nor a layout. -/
def renderText (composer : Composer) (text : String) (arguments : Entries) : Work Cache String := do
  let nodes ← Work.ofExcept (parseTemplate text)
  inScope (composer.textScope arguments) (composer.renderNodes (composer.levelsBelow .empty) nodes)

/-- The value of an expression in a scope. -/
def value (composer : Composer) (scope : Scope) (pipeline : Pipeline) : Work Cache Value :=
  inScope scope (evaluatePipeline (composer.call (composer.below (composer.levelsBelow scope))) pipeline)

end Composer

end Folio
