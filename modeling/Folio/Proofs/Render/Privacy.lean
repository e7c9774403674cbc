import Folio.Proofs.Render.Visibility
import Folio.Proofs.Value.Privacy
import Mathlib.Data.List.Forall2

/-!
Contract: private attributes cannot be seen through a render.

Owns: filters that make alike results of alike values and arguments, and that the built-in ones are such filters;
sessions whose bindings are alike; that expressions, calls of filters, rows of nodes and everything below them come
to alike values or to one and the same text or fault in such sessions; and the law that pages and texts do so
under settings and arguments that are alike.

Does not own: filters that observe a scope.
-/

namespace Folio

open Folio.Text Folio.Template

/-! ## Filters -/

/-- A filter that makes alike results of what is alike, or fails in the same way. It does not observe scopes. -/
def FilterSpec.IsDiscreet (spec : FilterSpec) : Prop :=
  match spec.action with
  | .plain run => ∀ value value' arguments arguments', value.Alike value' →
      Value.AllAlike arguments arguments' → Outcome.Rel Value.Alike (run value arguments) (run value' arguments')
  | .observing _ => False
  | .includePage => True
  | .repeatTemplate => True

section PlainFilters

variable {value value' : Value} {arguments arguments' : List Value} (alike : value.Alike value')
  (argumentsAlike : Value.AllAlike arguments arguments')

/-- A text that is made of the text of a value. -/
theorem text_alike {text text' : Except Mishap String} (same : text = text') (change : String → String) :
    Outcome.Rel Value.Alike ((text.map fun text => Value.str (change text)).mapError Fault.mishap)
      ((text'.map fun text => Value.str (change text)).mapError Fault.mishap) := by
  refine .mapError (.map (.of_eq same) ?_) _
  rintro text _ rfl
  exact .str _

include alike argumentsAlike

theorem otherwiseFilter_alike :
    Outcome.Rel Value.Alike (otherwiseFilter value arguments) (otherwiseFilter value' arguments') := by
  have whole := alike
  cases alike with
  | null => exact .ok (argumentsAlike.headD .null)
  | _ => exact .ok whole

omit argumentsAlike in
theorem textFilter_alike (change : String → String) :
    Outcome.Rel Value.Alike (textFilter change value arguments) (textFilter change value' arguments') := by
  cases alike with
  | null => exact .ok .null
  | str text => exact .ok (.str (change text))
  | _ => exact .error _

theorem joinFilter_alike :
    Outcome.Rel Value.Alike (joinFilter value arguments) (joinFilter value' arguments') := by
  have separators := (argumentsAlike.headD (.str ",")).text_eq
  have joined : ∀ {values values' : List Value}, Value.AllAlike values values' →
      Outcome.Rel Value.Alike
        (((joinTexts (arguments.headD (.str ",")) values).map Value.str).mapError Fault.mishap)
        (((joinTexts (arguments'.headD (.str ",")) values').map Value.str).mapError Fault.mishap) := by
    intro values values' valuesAlike
    unfold joinTexts
    rw [separators, valuesAlike.texts_eq]
    exact text_alike rfl id
  cases alike with
  | null => exact .ok .null
  | list items => exact joined items
  | tuple items => exact joined items
  | map entries => exact joined entries.values
  | _ => exact .error _

omit argumentsAlike in
theorem markdownFilter_alike :
    Outcome.Rel Value.Alike (markdownFilter value arguments) (markdownFilter value' arguments') := by
  have texts := text_alike alike.text_eq Markdown.render
  cases alike with
  | null => exact .ok .null
  | _ => exact texts

end PlainFilters

theorem isDiscreet_of_standard : ∀ spec ∈ standardSpecs, spec.IsDiscreet := by
  unfold standardSpecs
  simp only [List.forall_mem_cons]
  refine ⟨?_, ?_, ?_, ?_, ?_, trivial, trivial, fun _ member => absurd member List.not_mem_nil⟩
  · intro value value' arguments arguments' alike argumentsAlike
    exact otherwiseFilter_alike alike argumentsAlike
  · intro value value' arguments arguments' alike _
    exact textFilter_alike alike upper
  · intro value value' arguments arguments' alike _
    exact textFilter_alike alike lower
  · intro value value' arguments arguments' alike argumentsAlike
    exact joinFilter_alike alike argumentsAlike
  · intro value value' arguments arguments' alike _
    exact .ok alike

theorem FilterRegistry.IsBuiltIn.isDiscreet {registry : FilterRegistry} (builtIn : registry.IsBuiltIn) :
    ∀ spec ∈ registry.specs, spec.IsDiscreet := by
  intro spec registered
  rcases builtIn with plain | withMarkdown
  · rw [plain] at registered
    exact isDiscreet_of_standard spec registered
  · rw [withMarkdown] at registered
    rcases List.mem_cons.1 registered with rfl | registered
    · intro value value' arguments arguments' alike _
      exact markdownFilter_alike alike
    · exact isDiscreet_of_standard spec (List.mem_filter.1 registered).1

/-! ## Sessions -/

structure Frame.Alike (frame frame' : Frame) : Prop where
  bindings : frame.bindings.Alike frame'.bindings
  parent : frame.parent = frame'.parent

/-- Scopes with the same frames up to private attributes. -/
structure Scope.Alike (scope scope' : Scope) : Prop where
  frames : List.Forall₂ Frame.Alike scope.frames scope'.frames
  current : scope.current = scope'.current
  nesting : scope.nesting = scope'.nesting

structure Session.LooksAlike (session session' : Session) : Prop where
  scopes : session.scope.Alike session'.scope
  caches : session.cache = session'.cache

theorem frameChain_alike {frames frames' : List Frame} (alike : List.Forall₂ Frame.Alike frames frames')
    (current : Option Nat) :
    List.Forall₂ Frame.Alike (frameChain frames current) (frameChain frames' current) := by
  induction alike generalizing current with
  | nil => exact .nil
  | cons first older inductionHypothesis =>
      cases current with
      | none => exact .nil
      | some index =>
          rw [frameChain, frameChain, older.length_eq, first.parent]
          split
          · exact .cons first (inductionHypothesis _)
          · exact inductionHypothesis _

theorem findBinding_alike {frames frames' : List Frame} (alike : List.Forall₂ Frame.Alike frames frames')
    (name : String) : Option.Rel Value.Alike (findBinding frames name) (findBinding frames' name) := by
  unfold findBinding
  induction alike with
  | nil => exact .none
  | cons first older inductionHypothesis =>
      rw [Scope.findKey_cons, Scope.findKey_cons]
      exact optional_or (first.bindings.at? (.refl (.str name))) inductionHypothesis

namespace Scope.Alike

variable {scope scope' : Scope} {bindings bindings' : Entries}

theorem resolve (alike : scope.Alike scope') (name : String) :
    Option.Rel Value.Alike (scope.resolve name) (scope'.resolve name) := by
  have chains := frameChain_alike alike.frames scope.current
  unfold Scope.resolve Scope.chain
  rw [← alike.current]
  exact findBinding_alike chains name

theorem extend (alike : scope.Alike scope') (bound : bindings.Alike bindings') (label : String) :
    (scope.extend bindings label).Alike (scope'.extend bindings' label) where
  frames := .cons ⟨bound, alike.current⟩ alike.frames
  current := congrArg some alike.frames.length_eq
  nesting := alike.nesting

theorem enter (alike : scope.Alike scope') (bound : bindings.Alike bindings') (label : String) :
    (scope.enter bindings label).2.Alike (scope'.enter bindings' label).2 where
  frames := (alike.extend bound label).frames
  current := (alike.extend bound label).current
  nesting := congrArg (· + 1) alike.nesting

theorem leave (alike : scope.Alike scope') (child : Scope.Child) :
    (scope.leave child).Alike (scope'.leave child) := by
  have sameLength := alike.frames.length_eq
  refine ⟨?_, rfl, congrArg (· - 1) alike.nesting⟩
  unfold Scope.leave
  dsimp only
  rw [sameLength]
  split
  · rw [← List.drop_one, ← List.drop_one]
    exact List.forall₂_drop 1 alike.frames
  · exact alike.frames

end Scope.Alike

namespace Render

/-- Work in sessions that are alike. -/
abbrev Rel {α : Type} (results : α → α → Prop) (work work' : Render α) : Prop :=
  Work.Rel Session.LooksAlike results work work'

theorem resolve_rel (name : String) : Rel (Option.Rel Value.Alike) (resolve name) (resolve name) :=
  fun _ _ sessions => ⟨.ok (sessions.scopes.resolve name), sessions⟩

/-- Work on the cache alone cannot tell the sessions apart. -/
theorem withCache_rel {α : Type} (work : Work Cache α) : Rel Eq (withCache work) (withCache work) := by
  intro session session' sessions
  rw [withCache_apply, withCache_apply, sessions.caches]
  exact ⟨.of_eq rfl, sessions.scopes, rfl⟩

theorem inChild_rel {α : Type} {results : α → α → Prop} {bindings bindings' : Entries}
    (bound : bindings.Alike bindings') (label : String) {work work' : Render α} (rel : Rel results work work') :
    Rel results (inChild bindings label work) (inChild bindings' label work') := by
  intro session session' sessions
  rw [inChild_apply, inChild_apply]
  have entered : Session.LooksAlike ⟨(session.scope.enter bindings label).2, session.cache⟩
      ⟨(session'.scope.enter bindings' label).2, session'.cache⟩ :=
    ⟨sessions.scopes.enter bound label, sessions.caches⟩
  obtain ⟨found, after⟩ := rel _ _ entered
  refine ⟨found, ?_, after.caches⟩
  have sameChild : (session.scope.enter bindings label).1 = (session'.scope.enter bindings' label).1 := by
    unfold Scope.enter
    rw [sessions.scopes.frames.length_eq, sessions.scopes.current]
  dsimp only
  rw [sameChild]
  exact after.scopes.leave _

end Render

/-! ## Expressions -/

/-- Filters that are called with what is alike come to alike values. -/
def CallsRel (call call' : FilterCall) : Prop :=
  ∀ name value value' arguments arguments', value.Alike value' → Value.AllAlike arguments arguments' →
    Render.Rel Value.Alike (call name value arguments) (call' name value' arguments')

section Expressions

variable {call call' : FilterCall}

mutual

theorem CallsRel.evaluate (rel : CallsRel call call') : (expr : Expr) →
    Render.Rel Value.Alike (Folio.evaluate call expr) (Folio.evaluate call' expr)
  | .literal literal => by
      rw [Folio.evaluate, Folio.evaluate]
      exact .pure (.refl _)
  | .path head segments => by
      rw [Folio.evaluate, Folio.evaluate]
      refine .bind (Render.resolve_rel head) ?_
      rintro _ _ (⟨values⟩ | _)
      · exact rel.followSegments segments values
      · exact .pure .null
  | .array items => by
      rw [Folio.evaluate, Folio.evaluate]
      refine .bind (rel.evaluateItems items) ?_
      intro values values' alike
      exact .pure (.list alike)
  | .object entries => by
      rw [Folio.evaluate, Folio.evaluate]
      refine .bind (rel.evaluateEntries entries .nil) ?_
      intro values values' alike
      exact .pure (.map alike)
  | .pipeline root stages => by
      rw [Folio.evaluate, Folio.evaluate]
      refine .bind (rel.evaluate root) ?_
      intro value value' alike
      exact rel.runStages stages alike

theorem CallsRel.followSegments (rel : CallsRel call call') : (segments : List Segment) →
    {value value' : Value} → value.Alike value' →
    Render.Rel Value.Alike (Folio.followSegments call segments value)
      (Folio.followSegments call' segments value')
  | [], _, _, alike => by
      rw [Folio.followSegments, Folio.followSegments]
      exact .pure alike
  | segment :: segments, _, _, alike => by
      have whole := alike
      cases alike with
      | null =>
          rw [Folio.followSegments, Folio.followSegments]
          exact .pure .null
      | _ =>
          rw [Folio.followSegments, Folio.followSegments]
          · refine .bind (rel.evaluateSegment segment) ?_
            intro key key' keys
            refine .bind (.ofExcept (.mapError (whole.property keys) _)) ?_
            intro next next' nexts
            exact rel.followSegments segments nexts
          · exact nofun
          · exact nofun

theorem CallsRel.evaluateSegment (rel : CallsRel call call') : (segment : Segment) →
    Render.Rel Value.Alike (Folio.evaluateSegment call segment) (Folio.evaluateSegment call' segment)
  | .property name => by
      rw [Folio.evaluateSegment, Folio.evaluateSegment]
      exact .pure (.str name)
  | .index key => by
      rw [Folio.evaluateSegment, Folio.evaluateSegment]
      exact rel.evaluate key

theorem CallsRel.evaluateItems (rel : CallsRel call call') : (items : List Expr) →
    Render.Rel Value.AllAlike (Folio.evaluateItems call items) (Folio.evaluateItems call' items)
  | [] => by
      rw [Folio.evaluateItems, Folio.evaluateItems]
      exact .pure .nil
  | item :: items => by
      rw [Folio.evaluateItems, Folio.evaluateItems]
      refine .bind (rel.evaluate item) ?_
      intro first first' firsts
      refine .bind (rel.evaluateItems items) ?_
      intro rest rest' rests
      exact .pure (.cons firsts rests)

theorem CallsRel.evaluateEntries (rel : CallsRel call call') : (entries : List (String × Expr)) →
    {before before' : Entries} → before.Alike before' →
    Render.Rel Entries.Alike (Folio.evaluateEntries call entries before)
      (Folio.evaluateEntries call' entries before')
  | [], _, _, alike => by
      rw [Folio.evaluateEntries, Folio.evaluateEntries]
      exact .pure alike
  | (key, expr) :: entries, _, _, alike => by
      rw [Folio.evaluateEntries, Folio.evaluateEntries]
      refine .bind (rel.evaluate expr) ?_
      intro value value' values
      exact rel.evaluateEntries entries (alike.put (.str key) values)

theorem CallsRel.runStages (rel : CallsRel call call') : (stages : List Stage) →
    {value value' : Value} → value.Alike value' →
    Render.Rel Value.Alike (Folio.runStages call stages value) (Folio.runStages call' stages value')
  | [], _, _, alike => by
      rw [Folio.runStages, Folio.runStages]
      exact .pure alike
  | .mk name arguments line column :: stages, _, _, alike => by
      rw [Folio.runStages, Folio.runStages]
      refine .bind (rel.evaluateItems arguments) ?_
      intro values values' valuesAlike
      refine .bind (rel name _ _ values values' alike valuesAlike) ?_
      intro next next' nexts
      exact rel.runStages stages nexts

end

theorem CallsRel.evaluatePipeline (rel : CallsRel call call') (pipeline : Pipeline) :
    Render.Rel Value.Alike (Folio.evaluatePipeline call pipeline) (Folio.evaluatePipeline call' pipeline) := by
  refine .bind (rel.evaluate pipeline.root) ?_
  intro value value' alike
  exact rel.runStages pipeline.stages alike

end Expressions

/-! ## Composers -/

namespace Composer

/-- The same composer for a site that gives other arguments. -/
def withRoot (composer : Composer) (root : Entries) : Composer :=
  { composer with settings := { composer.settings with arguments := root } }

/-- What renders one level below comes to the same text or fault in alike sessions. -/
abbrev RendersRel (render render' : List Node → Render String) : Prop :=
  ∀ nodes, Render.Rel Eq (render nodes) (render' nodes)

section Arguments

variable {value value' : Value} {arguments arguments' : List Value} (alike : value.Alike value')

include alike

theorem refusal_eq (refuse : String → Mishap) : refusal refuse value = refusal refuse value' := by
  unfold refusal
  rw [alike.text_eq]

theorem includeArguments_alike (argumentsAlike : Value.AllAlike arguments arguments') :
    Outcome.Rel (fun given given' => given.1 = given'.1 ∧ given.2.Alike given'.2)
      (includeArguments value arguments) (includeArguments value' arguments') := by
  have refused := refusal_eq alike .notAPageName
  have given := argumentsAlike.headD .null
  cases alike with
  | str name =>
      unfold includeArguments
      dsimp only
      split
      · exact .error _
      · revert given
        generalize arguments.headD .null = first
        generalize arguments'.headD .null = first'
        intro given
        cases given with
        | null => exact .ok ⟨rfl, .nil⟩
        | map entries => exact .ok ⟨rfl, entries⟩
        | _ => exact .error _
  | _ =>
      unfold includeArguments
      dsimp only
      rw [refused]
      exact .error _

theorem bindingArgument_eq : bindingArgument value = bindingArgument value' := by
  have refused := refusal_eq alike .invalidBinding
  cases alike with
  | null => rfl
  | str name => rfl
  | _ => exact congrArg Except.error refused

theorem repeatArguments_alike (argumentsAlike : Value.AllAlike arguments arguments') :
    Outcome.Rel (fun given given' => given.1 = given'.1 ∧ given.2.1.Alike given'.2.1 ∧ given.2.2 = given'.2.2)
      (repeatArguments value arguments) (repeatArguments value' arguments') := by
  cases alike with
  | str template =>
      unfold repeatArguments
      dsimp only
      rw [bindingArgument_eq (argumentsAlike.getD 1)]
      refine .bind (.of_eq rfl) ?_
      rintro binding _ rfl
      exact .ok ⟨rfl, argumentsAlike.headD .null, rfl⟩
  | _ => exact .error _

end Arguments

section Levels

variable (composer : Composer) (root : Entries) {below below' : Below}

theorem goBelow_rel (belows : Option.Rel RendersRel below below') (target : String) :
    Render.Rel RendersRel (composer.goBelow target below) ((composer.withRoot root).goBelow target below') := by
  cases belows with
  | none => exact .throw _
  | some renders => exact .pure renders

theorem includePage_rel (belows : Option.Rel RendersRel below below') (name : String)
    {arguments arguments' : Entries} (alike : arguments.Alike arguments') :
    Render.Rel Eq (composer.includePage below name arguments)
      ((composer.withRoot root).includePage below' name arguments') := by
  refine .bind (composer.goBelow_rel root belows name) ?_
  intro render render' renders
  refine .bind (Render.withCache_rel _) ?_
  rintro page _ rfl
  exact Render.inChild_rel (.overlay (.refl _) alike) _ (renders page.nodes)

theorem renderEach_rel {render render' : List Node → Render String} (renders : RendersRel render render')
    (binding : String) (nodes : List Node) {values values' : List Value}
    (alike : Value.AllAlike values values') :
    Render.Rel Eq (renderEach render binding nodes values) (renderEach render' binding nodes values') := by
  induction values generalizing values' with
  | nil =>
      cases alike
      exact .pure rfl
  | cons value values inductionHypothesis =>
      cases alike with
      | cons first rest =>
          refine .bind (Render.inChild_rel (.cons (.refl _) first .nil) _ (renders nodes)) ?_
          rintro text _ rfl
          refine .bind (inductionHypothesis rest) ?_
          rintro texts _ rfl
          exact .pure rfl

theorem repeatTemplate_rel (belows : Option.Rel RendersRel below below') (template : String)
    {collection collection' : Value} (alike : collection.Alike collection') (binding : Option String) :
    Render.Rel Eq (composer.repeatTemplate below template collection binding)
      ((composer.withRoot root).repeatTemplate below' template collection' binding) := by
  have repeated : ∀ {values values' : List Value}, Value.AllAlike values values' →
      Render.Rel Eq (composer.repeatTemplate below template (.list values) binding)
        ((composer.withRoot root).repeatTemplate below' template (.list values') binding) := by
    intro values values' valuesAlike
    refine .bind (composer.goBelow_rel root belows _) ?_
    intro render render' renders
    refine .bind (Render.withCache_rel _) ?_
    rintro nodes _ rfl
    exact renderEach_rel renders _ nodes valuesAlike
  cases alike with
  | null => exact .pure rfl
  | list items => exact repeated items
  | tuple items => exact repeated items
  | map entries => exact repeated entries.values
  | _ => exact .throw _

theorem act_rel (belows : Option.Rel RendersRel below below') {spec : FilterSpec} (isDiscreet : spec.IsDiscreet)
    {value value' : Value} {arguments arguments' : List Value} (alike : value.Alike value')
    (argumentsAlike : Value.AllAlike arguments arguments') :
    Render.Rel Value.Alike (composer.act below spec.action value arguments)
      ((composer.withRoot root).act below' spec.action value' arguments') := by
  unfold FilterSpec.IsDiscreet at isDiscreet
  cases isAction : spec.action with
  | plain run =>
      rw [isAction] at isDiscreet
      exact .ofExcept (isDiscreet value value' arguments arguments' alike argumentsAlike)
  | observing run =>
      rw [isAction] at isDiscreet
      exact isDiscreet.elim
  | includePage =>
      refine .bind (.ofExcept (.mapError (includeArguments_alike alike argumentsAlike) _)) ?_
      rintro ⟨name, entries⟩ ⟨_, entries'⟩ ⟨rfl, entriesAlike⟩
      refine .bind (composer.includePage_rel root belows name entriesAlike) ?_
      rintro text _ rfl
      exact .pure (.str text)
  | repeatTemplate =>
      refine .bind (.ofExcept (.mapError (repeatArguments_alike alike argumentsAlike) _)) ?_
      rintro ⟨template, collection, binding⟩ ⟨_, collection', _⟩ ⟨rfl, collections, rfl⟩
      refine .bind (composer.repeatTemplate_rel root belows template collections binding) ?_
      rintro text _ rfl
      exact .pure (.str text)

variable (isDiscreet : ∀ spec ∈ composer.registry.specs, spec.IsDiscreet)

include isDiscreet

theorem call_rel (belows : Option.Rel RendersRel below below') :
    CallsRel (composer.call below) ((composer.withRoot root).call below') := by
  intro name value value' arguments arguments' alike argumentsAlike
  unfold Composer.call
  have sameRegistry : (composer.withRoot root).registry = composer.registry := rfl
  rw [sameRegistry, argumentsAlike.length_eq]
  cases isFound : composer.registry.find? name with
  | none => exact .throw _
  | some spec =>
      have registered : spec ∈ composer.registry.specs := List.mem_of_find?_eq_some isFound
      dsimp only
      split
      · exact .rename (composer.act_rel root belows (isDiscreet spec registered) alike argumentsAlike) _
      · exact .throw _

theorem renderNode_rel (belows : Option.Rel RendersRel below below') (node : Node) :
    Render.Rel Eq (composer.renderNode below node) ((composer.withRoot root).renderNode below' node) := by
  cases node with
  | literal text => exact .pure rfl
  | expression pipeline source line column =>
      refine .bind ((composer.call_rel root isDiscreet belows).evaluatePipeline pipeline) ?_
      intro value value' alike
      rw [alike.text_eq]
      exact .ofExcept (.of_eq rfl)

theorem renderRow_rel (belows : Option.Rel RendersRel below below') :
    RendersRel (composer.renderRow below) ((composer.withRoot root).renderRow below') := by
  intro nodes
  induction nodes with
  | nil => exact .pure rfl
  | cons node nodes inductionHypothesis =>
      refine .bind (composer.renderNode_rel root isDiscreet belows node) ?_
      rintro first _ rfl
      refine .bind inductionHypothesis ?_
      rintro rest _ rfl
      exact .pure rfl

theorem below_rel (level : Nat) :
    Option.Rel RendersRel (composer.below level) ((composer.withRoot root).below level) := by
  induction level with
  | zero => exact .none
  | succ level inductionHypothesis => exact .some (composer.renderRow_rel root isDiscreet inductionHypothesis)

theorem renderNodes_rel (level : Nat) :
    RendersRel (composer.renderNodes level) ((composer.withRoot root).renderNodes level) :=
  composer.renderRow_rel root isDiscreet (composer.below_rel root isDiscreet level)

end Levels

/-! ## Pages and texts -/

/-- Work in scopes that are alike comes to the same and reads the same pages. -/
theorem inScope_eq_of_alike {α : Type} {scope scope' : Scope} (scopes : scope.Alike scope')
    {work work' : Render α} (rel : Render.Rel Eq work work') (cache : Cache) :
    inScope scope work cache = inScope scope' work' cache := by
  obtain ⟨found, after⟩ := rel ⟨scope, cache⟩ ⟨scope', cache⟩ ⟨scopes, rfl⟩
  exact Prod.ext found.eq after.caches

theorem bindRest_rel (bindings : Entries) (label : String) :
    Render.Rel Eq (bindRest bindings label) (bindRest bindings label) :=
  fun _ _ sessions => ⟨.ok rfl, sessions.scopes.extend (.refl bindings) label, sessions.caches⟩

section Private

variable {composer : Composer} {root arguments arguments' : Entries}
  (roots : composer.settings.arguments.Alike root) (alike : arguments.Alike arguments')

include roots

theorem ofRoot_alike (label : String) :
    (Scope.ofRoot composer.settings.arguments label).Alike
      (Scope.ofRoot (composer.withRoot root).settings.arguments label) :=
  Scope.Alike.extend ⟨.nil, rfl, rfl⟩ roots label

include alike

theorem pageScope_alike (page : Page) (layout : Option Page) :
    (composer.pageScope page layout arguments).Alike
      ((composer.withRoot root).pageScope page layout arguments') := by
  have rootsAlike := ofRoot_alike roots rootLabel
  cases layout with
  | none => exact (rootsAlike.extend (.refl _) _).extend alike _
  | some layout => exact ((rootsAlike.extend (.refl _) _).extend (.refl _) _).extend alike _

theorem textScope_alike :
    (composer.textScope arguments).Alike ((composer.withRoot root).textScope arguments') :=
  (ofRoot_alike roots rootLabel).extend alike _

end Private

end Composer

end Folio
