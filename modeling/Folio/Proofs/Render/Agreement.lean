import Folio.Proofs.Work
import Folio.Render.Compose

/-!
Contract: renders that cannot be told apart.

Owns: that the value of an expression, the call of a filter, a row of nodes and everything below it agree
in related sessions, as soon as names, pages, inline templates and children do. Sessions are related in
views, and entering a child leads from one view to another. Also, which faults a filter is blamed for.

Does not own: which sessions are related, and why pages agree.
-/

namespace Folio

open Folio.Template

variable {related : Session → Session → Prop} {excused : Fault → Prop}

/-! ## Expressions -/

/-- What expressions ask of a session agrees: names and calls of filters. -/
structure CallsAgree (related : Session → Session → Prop) (excused : Fault → Prop)
    (call call' : FilterCall) : Prop where
  resolve : ∀ name, Work.Agrees related excused (Render.resolve name) (Render.resolve name)
  call : ∀ name value arguments,
    Work.Agrees related excused (call name value arguments) (call' name value arguments)

section Expressions

variable {call call' : FilterCall}

mutual

theorem CallsAgree.evaluate (agree : CallsAgree related excused call call') : (expr : Expr) →
    Work.Agrees related excused (Folio.evaluate call expr) (Folio.evaluate call' expr)
  | .literal literal => by
      rw [Folio.evaluate, Folio.evaluate]
      exact .pure _
  | .path head segments => by
      rw [Folio.evaluate, Folio.evaluate]
      refine .bind (agree.resolve head) ?_
      intro found
      cases found with
      | none => exact .pure _
      | some value => exact agree.followSegments segments value
  | .array items => by
      rw [Folio.evaluate, Folio.evaluate]
      refine .bind (agree.evaluateItems items) ?_
      intro values
      exact .pure _
  | .object entries => by
      rw [Folio.evaluate, Folio.evaluate]
      refine .bind (agree.evaluateEntries entries []) ?_
      intro values
      exact .pure _
  | .pipeline root stages => by
      rw [Folio.evaluate, Folio.evaluate]
      refine .bind (agree.evaluate root) ?_
      intro value
      exact agree.runStages stages value

theorem CallsAgree.followSegments (agree : CallsAgree related excused call call') :
    (segments : List Segment) → (value : Value) →
    Work.Agrees related excused (Folio.followSegments call segments value)
      (Folio.followSegments call' segments value)
  | [], value => by
      rw [Folio.followSegments, Folio.followSegments]
      exact .pure _
  | segment :: segments, value => by
      cases value with
      | null =>
          rw [Folio.followSegments, Folio.followSegments]
          exact .pure _
      | _ =>
          rw [Folio.followSegments, Folio.followSegments]
          · refine .bind (agree.evaluateSegment segment) ?_
            intro key
            refine .bind (.ofExcept _) ?_
            intro next
            exact agree.followSegments segments next
          · exact nofun
          · exact nofun

theorem CallsAgree.evaluateSegment (agree : CallsAgree related excused call call') :
    (segment : Segment) →
    Work.Agrees related excused (Folio.evaluateSegment call segment)
      (Folio.evaluateSegment call' segment)
  | .property name => by
      rw [Folio.evaluateSegment, Folio.evaluateSegment]
      exact .pure _
  | .index key => by
      rw [Folio.evaluateSegment, Folio.evaluateSegment]
      exact agree.evaluate key

theorem CallsAgree.evaluateItems (agree : CallsAgree related excused call call') :
    (items : List Expr) →
    Work.Agrees related excused (Folio.evaluateItems call items) (Folio.evaluateItems call' items)
  | [] => by
      rw [Folio.evaluateItems, Folio.evaluateItems]
      exact .pure _
  | item :: items => by
      rw [Folio.evaluateItems, Folio.evaluateItems]
      refine .bind (agree.evaluate item) ?_
      intro first
      refine .bind (agree.evaluateItems items) ?_
      intro rest
      exact .pure _

theorem CallsAgree.evaluateEntries (agree : CallsAgree related excused call call') :
    (entries : List (String × Expr)) → (before : Entries) →
    Work.Agrees related excused (Folio.evaluateEntries call entries before)
      (Folio.evaluateEntries call' entries before)
  | [], before => by
      rw [Folio.evaluateEntries, Folio.evaluateEntries]
      exact .pure _
  | (key, expr) :: entries, before => by
      rw [Folio.evaluateEntries, Folio.evaluateEntries]
      refine .bind (agree.evaluate expr) ?_
      intro value
      exact agree.evaluateEntries entries _

theorem CallsAgree.runStages (agree : CallsAgree related excused call call') :
    (stages : List Stage) → (value : Value) →
    Work.Agrees related excused (Folio.runStages call stages value)
      (Folio.runStages call' stages value)
  | [], value => by
      rw [Folio.runStages, Folio.runStages]
      exact .pure _
  | .mk name arguments line column :: stages, value => by
      rw [Folio.runStages, Folio.runStages]
      refine .bind (agree.evaluateItems arguments) ?_
      intro values
      refine .bind (agree.call name value values) ?_
      intro next
      exact agree.runStages stages next

end

theorem CallsAgree.evaluatePipeline (agree : CallsAgree related excused call call')
    (pipeline : Pipeline) :
    Work.Agrees related excused (Folio.evaluatePipeline call pipeline)
      (Folio.evaluatePipeline call' pipeline) := by
  refine .bind (agree.evaluate pipeline.root) ?_
  intro value
  exact agree.runStages pipeline.stages value

end Expressions

/-! ## Composers -/

/-- Only what is no error of a template is taken for a failure of a filter. -/
theorem Composer.blame_templateFault (name : String) {fault : Fault}
    (isTemplateFault : fault.isTemplateFault = true) : Composer.blame name fault = fault := by
  cases fault with
  | mishap cause => cases isTemplateFault
  | _ => rfl

/-- Two pieces of work agree in every view, in the sessions that are related there. -/
def Render.AgreesInViews {View α : Type} (related : View → Session → Session → Prop)
    (excused : Fault → Prop) (work work' : Render α) : Prop :=
  ∀ view, Work.Agrees (related view) excused work work'

namespace Composer

variable {View : Type} {related : View → Session → Session → Prop}
  {enter : View → Entries → String → View}

/-- Two composers know the same filters, and what they ask of related sessions agrees in every view. The
work of a child has to agree in the view that it is entered from. -/
structure Agree (related : View → Session → Session → Prop) (enter : View → Entries → String → View)
    (excused : Fault → Prop) (left right : Composer) : Prop where
  filter : ∀ name, left.registry.find? name = right.registry.find? name
  binding : left.settings.defaultBinding = right.settings.defaultBinding
  blame : ∀ name fault, excused fault → excused (Composer.blame name fault)
  resolve : ∀ name, Render.AgreesInViews related excused (Render.resolve name) (Render.resolve name)
  observe : ∀ spec ∈ left.registry.specs, ∀ run, spec.action = .observing run →
    ∀ view session session', related view session session' → run session.scope = run session'.scope
  page : ∀ name, Render.AgreesInViews related excused
    (Render.withCache (left.library.getPage name Library.partialKind))
    (Render.withCache (right.library.getPage name Library.partialKind))
  inline : ∀ text, Render.AgreesInViews related excused
    (Render.withCache (inlineNodes text)) (Render.withCache (inlineNodes text))
  child : ∀ view bindings label (work work' : Render String),
    Work.Agrees (related (enter view bindings label)) excused work work' →
      Work.Agrees (related view) excused (Render.inChild bindings label work)
        (Render.inChild bindings label work')

/-- What renders one level below agrees. Where the first composer has no level left it refuses, which has to
be excused or done by the other one in the same words. -/
def BelowAgree (related : View → Session → Session → Prop) (excused : Fault → Prop)
    (left right : Composer) : Below → Below → Prop
  | none, below' =>
      (∀ target, excused (.tooDeep left.settings.maxDepth target)) ∨
        (below' = none ∧ left.settings.maxDepth = right.settings.maxDepth)
  | some _, none => False
  | some render, some render' =>
      ∀ nodes, Render.AgreesInViews related excused (render nodes) (render' nodes)

section

variable {left right : Composer} {below below' : Below}

theorem BelowAgree.goBelow (agree : BelowAgree related excused left right below below')
    (target : String) {next next' : (List Node → Render String) → Render String} {view : View}
    (nextAgrees : ∀ render render',
      (∀ nodes, Render.AgreesInViews related excused (render nodes) (render' nodes)) →
        Work.Agrees (related view) excused (next render) (next' render')) :
    Work.Agrees (related view) excused (left.goBelow target below >>= next)
      (right.goBelow target below' >>= next') := by
  cases below with
  | none =>
      rcases agree with isExcused | ⟨rfl, sameDepth⟩
      · exact .throw_excused (isExcused target) _
      · unfold Composer.goBelow
        rw [sameDepth]
        exact .throw _
  | some render =>
      cases below' with
      | none => exact agree.elim
      | some render' => exact nextAgrees render render' agree

namespace Agree

variable (agree : Agree related enter excused left right)

include agree

theorem includePage (belowAgree : BelowAgree related excused left right below below')
    (name : String) (arguments : Entries) :
    Render.AgreesInViews related excused (left.includePage below name arguments)
      (right.includePage below' name arguments) := by
  intro view
  refine belowAgree.goBelow name ?_
  intro render render' rendersAgree
  refine .bind (agree.page name view) ?_
  intro page
  exact agree.child view _ _ _ _ (rendersAgree page.nodes _)

theorem renderEach {render render' : List Node → Render String} (binding : String)
    (nodes : List Node)
    (rendersAgree : Render.AgreesInViews related excused (render nodes) (render' nodes))
    (values : List Value) :
    Render.AgreesInViews related excused (Composer.renderEach render binding nodes values)
      (Composer.renderEach render' binding nodes values) := by
  intro view
  induction values with
  | nil => exact .pure _
  | cons value values inductionHypothesis =>
      refine .bind (agree.child view _ _ _ _ (rendersAgree _)) ?_
      intro first
      refine .bind inductionHypothesis ?_
      intro rest
      exact .pure _

theorem repeatTemplate (belowAgree : BelowAgree related excused left right below below')
    (template : String) (collection : Value) (binding : Option String) :
    Render.AgreesInViews related excused (left.repeatTemplate below template collection binding)
      (right.repeatTemplate below' template collection binding) := by
  intro view
  unfold Composer.repeatTemplate
  rw [agree.binding]
  split
  · exact .pure _
  · split
    · exact .throw _
    · refine belowAgree.goBelow _ ?_
      intro render render' rendersAgree
      refine .bind (agree.inline template view) ?_
      intro nodes
      exact agree.renderEach _ nodes (rendersAgree nodes) _ view

/-- Of an observing filter only what it makes of the scopes matters. -/
theorem observed {spec : FilterSpec} (registered : spec ∈ left.registry.specs)
    {run : Scope → Value → List Value → Except Fault Value} (observes : spec.action = .observing run)
    (value : Value) (arguments : List Value) :
    Render.AgreesInViews related excused
      (Render.scope >>= fun scope => Work.ofExcept (run scope value arguments))
      (Render.scope >>= fun scope => Work.ofExcept (run scope value arguments)) := by
  intro view session session' areRelated
  have same := agree.observe spec registered run observes view session session' areRelated
  refine .inr ⟨?_, areRelated⟩
  change run session.scope value arguments = run session'.scope value arguments
  rw [same]

theorem act (belowAgree : BelowAgree related excused left right below below') {spec : FilterSpec}
    (registered : spec ∈ left.registry.specs) (value : Value) (arguments : List Value) :
    Render.AgreesInViews related excused (left.act below spec.action value arguments)
      (right.act below' spec.action value arguments) := by
  intro view
  cases isAction : spec.action with
  | plain run => exact .ofExcept _
  | observing run => exact agree.observed registered isAction value arguments view
  | includePage =>
      refine .bind (.ofExcept _) ?_
      intro (name, entries)
      refine .bind (agree.includePage belowAgree name entries view) ?_
      intro text
      exact .pure _
  | repeatTemplate =>
      refine .bind (.ofExcept _) ?_
      intro (template, collection, binding)
      refine .bind (agree.repeatTemplate belowAgree template collection binding view) ?_
      intro text
      exact .pure _

theorem call (belowAgree : BelowAgree related excused left right below below') (name : String)
    (value : Value) (arguments : List Value) :
    Render.AgreesInViews related excused (left.call below name value arguments)
      (right.call below' name value arguments) := by
  intro view
  unfold Composer.call
  rw [← agree.filter name]
  cases isFound : left.registry.find? name with
  | none => exact .throw _
  | some spec =>
      dsimp only
      have registered : spec ∈ left.registry.specs := List.mem_of_find?_eq_some isFound
      by_cases accepted : spec.arity.accepts arguments.length
      · rw [if_pos accepted, if_pos accepted]
        exact .rename (agree.blame name) (agree.act belowAgree registered value arguments view)
      · rw [if_neg accepted, if_neg accepted]
        exact .throw _

theorem calls (belowAgree : BelowAgree related excused left right below below') (view : View) :
    CallsAgree (related view) excused (left.call below) (right.call below') where
  resolve name := agree.resolve name view
  call name value arguments := agree.call belowAgree name value arguments view

theorem renderRow (belowAgree : BelowAgree related excused left right below below')
    (nodes : List Node) :
    Render.AgreesInViews related excused (left.renderRow below nodes)
      (right.renderRow below' nodes) := by
  intro view
  induction nodes with
  | nil => exact .pure _
  | cons node nodes inductionHypothesis =>
      have nodeAgrees : Work.Agrees (related view) excused (left.renderNode below node)
          (right.renderNode below' node) := by
        cases node with
        | literal text => exact .pure _
        | expression pipeline source line column =>
            refine .bind ((agree.calls belowAgree view).evaluatePipeline pipeline) ?_
            intro value
            exact .ofExcept _
      refine .bind nodeAgrees ?_
      intro first
      refine .bind inductionHypothesis ?_
      intro rest
      exact .pure _

/-- With as many levels on either side everything below agrees. -/
theorem levels (sameDepth : left.settings.maxDepth = right.settings.maxDepth) (level : Nat) :
    BelowAgree related excused left right (left.below level) (right.below level) := by
  induction level with
  | zero => exact .inr ⟨rfl, sameDepth⟩
  | succ level inductionHypothesis => exact fun nodes => agree.renderRow inductionHypothesis nodes

/-- Where it is excused to go too deep, the other side may have more levels. -/
theorem levels_le (isExcused : ∀ target, excused (.tooDeep left.settings.maxDepth target))
    {level level' : Nat} (more : level ≤ level') :
    BelowAgree related excused left right (left.below level) (right.below level') := by
  induction level generalizing level' with
  | zero => exact .inl isExcused
  | succ level inductionHypothesis =>
      cases level' with
      | zero => cases more
      | succ level' =>
          have deeper := inductionHypothesis (Nat.le_of_succ_le_succ more)
          exact fun nodes => agree.renderRow deeper nodes

theorem renderNodes (sameDepth : left.settings.maxDepth = right.settings.maxDepth) (level : Nat)
    (nodes : List Node) :
    Render.AgreesInViews related excused (left.renderNodes level nodes)
      (right.renderNodes level nodes) :=
  agree.renderRow (agree.levels sameDepth level) nodes

end Agree

end

end Composer

end Folio
