import Folio.Proofs.Render.Inclusion

/-!
Contract: renders see no more of a scope than the names that it binds.

Owns: what names stand for behind frames; scopes that bind the same names; work in two scopes that are alike,
each over a cache of its own; and the law that expressions, rows of nodes, partials and repeated templates
come to the same in scopes that bind the same names under as many open children.

Does not own: filters that observe a scope.
-/

namespace Folio

open Folio.Template

/-! ## Names -/

namespace Scope

/-- Two scopes in which every name stands for the same, however many frames they have, whatever these are
called and whatever else they bind. -/
def SameNames (scope scope' : Scope) : Prop :=
  ∀ name, scope.resolve name = scope'.resolve name

/-- A name is looked for in the newest frame first; an explicit `null` is found there. -/
theorem resolve_extend (scope : Scope) (bindings : Entries) (label name : String) :
    (scope.extend bindings label).resolve name =
      (bindings.at? (.str name)).or (scope.resolve name) := by
  have isChain : (scope.extend bindings label).chain = ⟨bindings, scope.current, label⟩ :: scope.chain :=
    scope.chain_enter bindings label
  rw [resolve, isChain, findBinding, findKey_cons]
  rfl

theorem resolve_enter (scope : Scope) (bindings : Entries) (label name : String) :
    (scope.enter bindings label).2.resolve name =
      (bindings.at? (.str name)).or (scope.resolve name) :=
  scope.resolve_extend bindings label name

theorem resolve_ofRoot (bindings : Entries) (label name : String) :
    (ofRoot bindings label).resolve name = bindings.at? (.str name) := by
  rw [ofRoot, resolve_extend]
  exact Option.or_none

/-- Entering a child on both sides keeps the names that are bound alike, since the child binds its own names
over them in the same way. -/
theorem isLikeness_sameNames : IsLikeness SameNames where
  resolve _ _ same name := same name
  enter := by
    intro scope scope' same bindings label name
    rw [resolve_enter, resolve_enter, same name]

end Scope

/-! ## Work in a scope -/

namespace Composer

theorem levelsBelow_eq (composer : Composer) {scope scope' : Scope}
    (sameNesting : scope.nesting = scope'.nesting) :
    composer.levelsBelow scope = composer.levelsBelow scope' := by
  unfold levelsBelow
  rw [sameNesting]

/-- Work in two scopes that are alike is work on two caches. -/
theorem inScope_agrees {library : Library} {alike : Scope → Scope → Prop} {scope scope' : Scope} {α : Type}
    {excused : Fault → Prop} (areAlike : alike scope scope') {work work' : Render α}
    (agrees : Work.Agrees (Session.Placed library alike (scope, scope')) excused work work') :
    Work.Agrees (Cache.Alike library) excused (inScope scope work) (inScope scope' work') := by
  intro cache cache' caches
  have placed : Session.Placed library alike (scope, scope') ⟨scope, cache⟩ ⟨scope', cache'⟩ :=
    ⟨areAlike, rfl, rfl, caches⟩
  rcases agrees _ _ placed with failed | ⟨sameResult, after⟩
  · exact .inl failed
  · exact .inr ⟨sameResult, after.caches⟩

/-- Work in a scope, with what renders one level below it. -/
def inside {α : Type} (composer : Composer) (scope : Scope) (work : Below → Render α) : Work Cache α :=
  inScope scope (work (composer.below (composer.levelsBelow scope)))

/-- The value of a part of an expression in a scope. -/
def exprValue (composer : Composer) (scope : Scope) (expr : Expr) : Work Cache Value :=
  composer.inside scope fun below => evaluate (composer.call below) expr

/-- The text of a page that is included in a scope. -/
def partialText (composer : Composer) (scope : Scope) (name : String) (arguments : Entries) :
    Work Cache String :=
  composer.inside scope fun below => composer.includePage below name arguments

/-- The text of a template that is repeated in a scope. -/
def repeatedText (composer : Composer) (scope : Scope) (template : String) (collection : Value)
    (binding : Option String) : Work Cache String :=
  composer.inside scope fun below => composer.repeatTemplate below template collection binding

/-! ## Scopes that bind the same names -/

section SameNames

variable {composer : Composer} (observesNothing : composer.registry.ObservesNothing) {scope scope' : Scope}
  (sameNames : scope.SameNames scope') (sameNesting : scope.nesting = scope'.nesting)

include observesNothing

theorem agree_sameNames :
    Agree (Session.Placed composer.library Scope.SameNames) enterBoth (fun _ => False) composer composer :=
  composer.agree_placed Scope.isLikeness_sameNames (observesNothing.respects _)
    (fun _ _ isExcused => isExcused) composer.settings.maxDepth composer.settings.maxDepth

include sameNames sameNesting

/-- As many levels are left below either scope, so the work needs to agree for the same levels only. -/
theorem inside_agrees {α : Type} {work : Below → Render α}
    (agrees : ∀ below,
      BelowAgree (Session.Placed composer.library Scope.SameNames) (fun _ => False) composer composer below
        below →
      Work.Agrees (Session.Placed composer.library Scope.SameNames (scope, scope')) (fun _ => False)
        (work below) (work below)) :
    Work.Agrees (Cache.Alike composer.library) (fun _ => False) (composer.inside scope work)
      (composer.inside scope' work) := by
  have sameLevels := composer.levelsBelow_eq sameNesting.symm
  unfold inside
  rw [sameLevels]
  exact inScope_agrees sameNames (agrees _ ((agree_sameNames observesNothing).levels rfl _))

theorem nodesText_agrees (nodes : List Node) :
    Work.Agrees (Cache.Alike composer.library) (fun _ => False) (composer.nodesText scope nodes)
      (composer.nodesText scope' nodes) :=
  inside_agrees observesNothing sameNames sameNesting fun _ belowAgree =>
    (agree_sameNames observesNothing).renderRow belowAgree nodes _

/-- A render sees of a scope what its names stand for, and how many children are open. In two scopes that
agree on both, by way of caches in which the same is found, every expression has the same value or fault, and
so has every row of nodes, every partial with its arguments and every repeated template with its collection
and binding. -/
theorem results_eq_of_sameNames {cache cache' : Cache}
    (caches : cache.Alike composer.library cache') :
    (∀ expr, (composer.exprValue scope expr cache).1 = (composer.exprValue scope' expr cache').1) ∧
      (∀ pipeline, (composer.value scope pipeline cache).1 = (composer.value scope' pipeline cache').1) ∧
      (∀ nodes, (composer.nodesText scope nodes cache).1 = (composer.nodesText scope' nodes cache').1) ∧
      (∀ name arguments, (composer.partialText scope name arguments cache).1 =
        (composer.partialText scope' name arguments cache').1) ∧
      ∀ template collection binding, (composer.repeatedText scope template collection binding cache).1 =
        (composer.repeatedText scope' template collection binding cache').1 := by
  have agree := agree_sameNames observesNothing
  refine ⟨?_, ?_, ?_, ?_, ?_⟩
  · intro expr
    have agrees := inside_agrees observesNothing sameNames sameNesting fun _ belowAgree =>
      (agree.calls belowAgree _).evaluate expr
    exact (agrees.same caches).1
  · intro pipeline
    have agrees := inside_agrees observesNothing sameNames sameNesting fun _ belowAgree =>
      (agree.calls belowAgree _).evaluatePipeline pipeline
    exact (agrees.same caches).1
  · intro nodes
    exact ((nodesText_agrees observesNothing sameNames sameNesting nodes).same caches).1
  · intro name arguments
    have agrees := inside_agrees observesNothing sameNames sameNesting fun _ belowAgree =>
      agree.includePage belowAgree name arguments _
    exact (agrees.same caches).1
  · intro template collection binding
    have agrees := inside_agrees observesNothing sameNames sameNesting fun _ belowAgree =>
      agree.repeatTemplate belowAgree template collection binding _
    exact (agrees.same caches).1

end SameNames

/-- The law at two scopes whose frames, labels and depths differ, for a repeated template that includes a page
in its rounds. -/
theorem results_eq_of_sameNames_at_frames :
    let composer : Composer :=
      ⟨.default, ⟨.memory [("p.html", "\x7b\x7b it \x7d\x7d\x7b\x7b x \x7d\x7d")], ".html"⟩, .standard⟩
    let scope := Scope.ofRoot [(.str "x", .int 1), (.str "y", .null)] "flat"
    let scope' := ((Scope.ofRoot [(.str "x", .int 0)] "root").extend [(.str "y", .null)] "more").extend
      [(.str "x", .int 1)] "top"
    let rounds : Value := .list [.int 2, .int 3]
    composer.registry.ObservesNothing ∧ scope.SameNames scope' ∧ scope.nesting = scope'.nesting ∧
      scope.depth ≠ scope'.depth ∧
      (composer.repeatedText scope "<\x7b\x7b 'p' | partial \x7d\x7d>" rounds none .empty).1 =
        .ok "<21><31>" ∧
      (composer.repeatedText scope' "<\x7b\x7b 'p' | partial \x7d\x7d>" rounds none .empty).1 =
        .ok "<21><31>" := by
  intro composer scope scope' rounds
  have observesNothing : composer.registry.ObservesNothing :=
    FilterRegistry.IsBuiltIn.observesNothing (.inl rfl)
  have sameNames : scope.SameNames scope' := by
    intro name
    simp only [scope, scope', Scope.resolve_ofRoot, Scope.resolve_extend, Entries.at?, Value.sameKey]
    by_cases isX : "x" = name
    · simp [isX]
    · simp [isX]
  have isText : (composer.repeatedText scope "<\x7b\x7b 'p' | partial \x7d\x7d>" rounds none .empty).1 =
      .ok "<21><31>" := by decide +kernel
  have same := (results_eq_of_sameNames observesNothing sameNames rfl (.refl _ .empty)).2.2.2.2
    "<\x7b\x7b 'p' | partial \x7d\x7d>" rounds none
  exact ⟨observesNothing, sameNames, rfl, by decide, isText, same.symm.trans isText⟩

end Composer

end Folio
