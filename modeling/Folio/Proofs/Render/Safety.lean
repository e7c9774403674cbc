import Folio.Proofs.Filter.Standard
import Folio.Proofs.Render.Transparency

/-!
Contract: renders of templates that have been looked at.

Owns: templates that repeat literal texts only; sets of templates whose filters are known, whose inline
templates can be read and which all pages belong to; and that renders of such templates fail neither for
a malformed text nor for an unknown filter, whatever they include.

Does not own: how a template is looked at.
-/

namespace Folio

open Folio.Template

/-! ## Templates that repeat literal texts -/

namespace Template

def Expr.isText : Expr → Bool
  | .literal (.str _) => true
  | _ => false

/-- Only the first stage may repeat a template, and only one that stands there as a text. -/
def repeatsText (root : Expr) : List Stage → Bool
  | [] => true
  | first :: others =>
      (first.name != repeatingFilter || root.isText) &&
        others.all fun stage => stage.name != repeatingFilter

mutual

def Expr.repeatsTexts : Expr → Bool
  | .literal _ => true
  | .path _ segments => segmentsRepeatTexts segments
  | .array items => exprsRepeatTexts items
  | .object entries => entriesRepeatTexts entries
  | .pipeline root stages => repeatsText root stages && root.repeatsTexts && stagesRepeatTexts stages

def exprsRepeatTexts : List Expr → Bool
  | [] => true
  | expr :: exprs => expr.repeatsTexts && exprsRepeatTexts exprs

def entriesRepeatTexts : List (String × Expr) → Bool
  | [] => true
  | (_, value) :: entries => value.repeatsTexts && entriesRepeatTexts entries

def segmentsRepeatTexts : List Segment → Bool
  | [] => true
  | .property _ :: segments => segmentsRepeatTexts segments
  | .index key :: segments => key.repeatsTexts && segmentsRepeatTexts segments

def stagesRepeatTexts : List Stage → Bool
  | [] => true
  | .mk _ arguments _ _ :: stages => exprsRepeatTexts arguments && stagesRepeatTexts stages

end

def Node.repeatsTexts : Node → Bool
  | .literal _ => true
  | .expression pipeline _ _ _ =>
      repeatsText pipeline.root pipeline.stages && pipeline.root.repeatsTexts &&
        stagesRepeatTexts pipeline.stages

end Template

/-! ## Expressions -/

/-- The filters that a part of a tree names are known, the texts that it hands over are permitted, and it
repeats texts only. -/
structure Permitted (known texts : String → Prop) (filters handed : List String) (repeats : Bool) :
    Prop where
  filter : ∀ name ∈ filters, known name
  text : ∀ text ∈ handed, texts text
  repeats : repeats = true

namespace Permitted

variable {known texts : String → Prop} {filters filters' handed handed' : List String}
  {repeats repeats' : Bool}

theorem left
    (permitted : Permitted known texts (filters ++ filters') (handed ++ handed') (repeats && repeats')) :
    Permitted known texts filters handed repeats where
  filter name member := permitted.filter name (List.mem_append_left _ member)
  text text member := permitted.text text (List.mem_append_left _ member)
  repeats := (Bool.and_eq_true _ _ ▸ permitted.repeats).1

theorem right
    (permitted : Permitted known texts (filters ++ filters') (handed ++ handed') (repeats && repeats')) :
    Permitted known texts filters' handed' repeats' where
  filter name member := permitted.filter name (List.mem_append_right _ member)
  text text member := permitted.text text (List.mem_append_right _ member)
  repeats := (Bool.and_eq_true _ _ ▸ permitted.repeats).2

theorem tail {name : String}
    (permitted : Permitted known texts (name :: filters) handed repeats) :
    Permitted known texts filters handed repeats where
  filter other member := permitted.filter other (List.mem_cons_of_mem name member)
  text := permitted.text
  repeats := permitted.repeats

/-- The parts of a pipeline, for both pipelines inside trees and whole expressions. -/
theorem parts {root : Expr} {stages : List Stage}
    (permitted : Permitted known texts (root.filters ++ stageFilters stages)
      (handedText repeatingFilter root stages ++ root.inlineTexts repeatingFilter ++
        stageInlineTexts repeatingFilter stages)
      (repeatsText root stages && root.repeatsTexts && stagesRepeatTexts stages)) :
    (∀ text ∈ handedText repeatingFilter root stages, texts text) ∧
      repeatsText root stages = true ∧
      Permitted known texts root.filters (root.inlineTexts repeatingFilter) root.repeatsTexts ∧
      Permitted known texts (stageFilters stages) (stageInlineTexts repeatingFilter stages)
        (stagesRepeatTexts stages) := by
  have front := permitted.left
  have repeats := Bool.and_eq_true _ _ ▸ front.repeats
  refine ⟨fun text member => front.text text (List.mem_append_left _ member), repeats.1, ?_,
    permitted.right⟩
  exact ⟨front.filter, fun text member => front.text text (List.mem_append_right _ member), repeats.2⟩

end Permitted

/-- Rendering work that is safe whatever its result. -/
abbrev Render.IsSafe {α : Type} (holds : Session → Prop) (allowed : Fault → Prop)
    (work : Render α) : Prop :=
  Work.Safe holds allowed (fun _ => True) work

/-- What permitted expressions ask of a session is safe. A template is repeated only if it is a permitted
text. -/
structure CallsSafe (known texts : String → Prop) (holds : Session → Prop) (allowed : Fault → Prop)
    (call : FilterCall) : Prop where
  mishap : ∀ cause, allowed (.mishap cause)
  call : ∀ name value arguments, known name →
    (name = repeatingFilter → ∃ text, value = .str text ∧ texts text) →
      Render.IsSafe holds allowed (call name value arguments)

/-- Only the first of some stages may repeat a template, and only if the value is a permitted text. -/
def StartsWith (texts : String → Prop) (value : Value) : List Stage → Prop
  | [] => True
  | first :: others =>
      (first.name = repeatingFilter → ∃ text, value = .str text ∧ texts text) ∧
        ∀ stage ∈ others, stage.name ≠ repeatingFilter

section Expressions

variable {known texts : String → Prop} {holds : Session → Prop} {allowed : Fault → Prop}
  {call : FilterCall}

theorem startsWith_of_others {value : Value} {stages : List Stage}
    (others : ∀ stage ∈ stages, stage.name ≠ repeatingFilter) : StartsWith texts value stages := by
  cases stages with
  | nil => trivial
  | cons first stages =>
      obtain ⟨firstOther, stagesOther⟩ := List.forall_mem_cons.1 others
      exact ⟨fun isRepeating => absurd isRepeating firstOther, stagesOther⟩

/-- The value of a root is one that its stages may start with. -/
theorem startsWith_of_repeatsText {root : Expr} {stages : List Stage}
    (isText : repeatsText root stages = true)
    (permitted : ∀ text ∈ handedText repeatingFilter root stages, texts text)
    (safe : Render.IsSafe holds allowed (evaluate call root)) :
    Work.Safe holds allowed (fun value => StartsWith texts value stages) (evaluate call root) := by
  cases stages with
  | nil =>
      intro session held
      obtain ⟨stillHeld, -, isAllowed⟩ := safe session held
      exact ⟨stillHeld, fun _ _ => trivial, isAllowed⟩
  | cons first others =>
      simp only [repeatsText, Bool.and_eq_true, Bool.or_eq_true, bne_iff_ne, ne_eq,
        List.all_eq_true] at isText
      obtain ⟨firstText, othersOther⟩ := isText
      by_cases isRepeating : first.name = repeatingFilter
      · have rootText := firstText.resolve_left fun isOther => isOther isRepeating
        unfold Expr.isText at rootText
        split at rootText
        · rename_i text
          rw [evaluate]
          refine .pure ⟨fun _ => ⟨text, rfl, permitted text ?_⟩, othersOther⟩
          simp [handedText, isRepeating]
        · cases rootText
      · intro session held
        obtain ⟨stillHeld, -, isAllowed⟩ := safe session held
        exact ⟨stillHeld, fun _ _ => ⟨fun same => absurd same isRepeating, othersOther⟩, isAllowed⟩

theorem mishap_safe {α : Type} (mishap : ∀ cause, allowed (.mishap cause))
    (outcome : Except Mishap α) :
    Render.IsSafe holds allowed (Work.ofExcept (outcome.mapError .mishap)) := by
  cases outcome with
  | ok result => exact .pure trivial
  | error cause => exact .throw (mishap cause)

/-- One step of a path, behind its key and before the steps that follow. -/
theorem followSegments_safe {segment : Segment} {segments : List Segment}
    (mishap : ∀ cause, allowed (.mishap cause))
    (keySafe : Render.IsSafe holds allowed (evaluateSegment call segment))
    (restSafe : ∀ value, Render.IsSafe holds allowed (followSegments call segments value))
    (value : Value) :
    Render.IsSafe holds allowed (followSegments call (segment :: segments) value) := by
  cases value with
  | null =>
      rw [followSegments]
      exact .pure trivial
  | _ =>
      rw [followSegments]
      · refine .bind keySafe ?_
        intro key _
        refine .bind (mishap_safe mishap _) ?_
        intro next _
        exact restSafe next
      · intro isNull
        cases isNull

theorem resolve_safe (name : String) : Render.IsSafe holds allowed (Render.resolve name) :=
  fun _ held => ⟨held, fun _ _ => trivial, fun _ => nofun⟩

mutual

theorem CallsSafe.evaluate (safe : CallsSafe known texts holds allowed call) : (expr : Expr) →
    Permitted known texts expr.filters (expr.inlineTexts repeatingFilter) expr.repeatsTexts →
      Render.IsSafe holds allowed (Folio.evaluate call expr)
  | .literal literal, _ => by
      rw [Folio.evaluate]
      exact .pure trivial
  | .path head segments, permitted => by
      rw [Folio.evaluate]
      refine .bind (resolve_safe head) ?_
      intro found _
      cases found with
      | none => exact .pure trivial
      | some value => exact safe.followSegments segments value permitted
  | .array items, permitted => by
      rw [Folio.evaluate]
      refine .bind (safe.evaluateItems items permitted) ?_
      intro values _
      exact .pure trivial
  | .object entries, permitted => by
      rw [Folio.evaluate]
      refine .bind (safe.evaluateEntries entries [] permitted) ?_
      intro values _
      exact .pure trivial
  | .pipeline root stages, permitted => by
      obtain ⟨handed, isText, rootPermitted, stagesPermitted⟩ := permitted.parts
      rw [Folio.evaluate]
      have rootSafe := startsWith_of_repeatsText isText handed (safe.evaluate root rootPermitted)
      refine .bind rootSafe ?_
      intro value starts
      exact safe.runStages stages value stagesPermitted starts

theorem CallsSafe.followSegments (safe : CallsSafe known texts holds allowed call) :
    (segments : List Segment) → (value : Value) →
    Permitted known texts (segmentFilters segments) (segmentInlineTexts repeatingFilter segments)
      (segmentsRepeatTexts segments) →
      Render.IsSafe holds allowed (Folio.followSegments call segments value)
  | [], value, _ => by
      rw [Folio.followSegments]
      exact .pure trivial
  | .property name :: segments, value, permitted => by
      refine followSegments_safe safe.mishap ?_
        (fun next => safe.followSegments segments next permitted) value
      rw [evaluateSegment]
      exact .pure trivial
  | .index key :: segments, value, permitted => by
      refine followSegments_safe safe.mishap ?_
        (fun next => safe.followSegments segments next permitted.right) value
      rw [evaluateSegment]
      exact safe.evaluate key permitted.left

theorem CallsSafe.evaluateItems (safe : CallsSafe known texts holds allowed call) :
    (items : List Expr) →
    Permitted known texts (exprFilters items) (exprInlineTexts repeatingFilter items)
      (exprsRepeatTexts items) →
      Render.IsSafe holds allowed (Folio.evaluateItems call items)
  | [], _ => by
      rw [Folio.evaluateItems]
      exact .pure trivial
  | item :: items, permitted => by
      rw [Folio.evaluateItems]
      refine .bind (safe.evaluate item permitted.left) ?_
      intro first _
      refine .bind (safe.evaluateItems items permitted.right) ?_
      intro rest _
      exact .pure trivial

theorem CallsSafe.evaluateEntries (safe : CallsSafe known texts holds allowed call) :
    (entries : List (String × Expr)) → (before : Entries) →
    Permitted known texts (entryFilters entries) (entryInlineTexts repeatingFilter entries)
      (entriesRepeatTexts entries) →
      Render.IsSafe holds allowed (Folio.evaluateEntries call entries before)
  | [], before, _ => by
      rw [Folio.evaluateEntries]
      exact .pure trivial
  | (key, expr) :: entries, before, permitted => by
      rw [Folio.evaluateEntries]
      refine .bind (safe.evaluate expr permitted.left) ?_
      intro value _
      exact safe.evaluateEntries entries _ permitted.right

theorem CallsSafe.runStages (safe : CallsSafe known texts holds allowed call) :
    (stages : List Stage) → (value : Value) →
    Permitted known texts (stageFilters stages) (stageInlineTexts repeatingFilter stages)
      (stagesRepeatTexts stages) → StartsWith texts value stages →
      Render.IsSafe holds allowed (Folio.runStages call stages value)
  | [], value, _, _ => by
      rw [Folio.runStages]
      exact .pure trivial
  | .mk name arguments line column :: stages, value, permitted, starts => by
      rw [Folio.runStages]
      refine .bind (safe.evaluateItems arguments permitted.left.tail) ?_
      intro values _
      have known := permitted.filter name List.mem_cons_self
      refine .bind (safe.call name value values known starts.1) ?_
      intro next _
      exact safe.runStages stages next permitted.right (startsWith_of_others starts.2)

end

/-- What the pipeline of a node mentions is what the node mentions. -/
theorem CallsSafe.evaluatePipeline (safe : CallsSafe known texts holds allowed call)
    (pipeline : Pipeline) (source : String) (line column : Int)
    (permitted : Permitted known texts (Node.expression pipeline source line column).filters
      ((Node.expression pipeline source line column).inlineTexts repeatingFilter)
      (Node.expression pipeline source line column).repeatsTexts) :
    Render.IsSafe holds allowed (Folio.evaluatePipeline call pipeline) := by
  obtain ⟨handed, isText, rootPermitted, stagesPermitted⟩ := permitted.parts
  have rootSafe :=
    startsWith_of_repeatsText isText handed (safe.evaluate pipeline.root rootPermitted)
  refine .bind rootSafe ?_
  intro value starts
  exact safe.runStages pipeline.stages value stagesPermitted starts

end Expressions

/-! ## Composers -/

theorem isDynamic_blame (name : String) (fault : Fault) (isDynamic : fault.IsDynamic) :
    (Composer.blame name fault).IsDynamic := by
  cases fault with
  | mishap cause => rfl
  | _ => exact isDynamic

/-- A set of templates that a composer may render: their filters are known, they repeat texts only, their
inline templates can be read and belong to the set, and so do the templates of all pages. -/
structure Composer.Vets (composer : Composer) (pool : List Node → Prop) : Prop where
  tame : ∀ spec ∈ composer.registry.specs, spec.IsTame
  known : ∀ nodes, pool nodes → ∀ name ∈ filterNames nodes,
    composer.registry.contains name = true
  repeats : ∀ nodes, pool nodes → ∀ node ∈ nodes, node.repeatsTexts = true
  inside : ∀ nodes, pool nodes → ∀ text ∈ inlineTemplates nodes repeatingFilter,
    ∃ deeper, parseTemplate text = .ok deeper ∧ pool deeper
  page : ∀ name page, composer.library.readNamed name = .ok (some page) → pool page.nodes
  readable : ∀ name fault, composer.library.readNamed name = .error fault → fault.IsDynamic

/-- The cache of a session is faithful. -/
def Session.IsFaithful (library : Library) (session : Session) : Prop :=
  session.cache.Faithful library

section Sessions

variable {library : Library} {α : Type} {good : α → Prop}

theorem Settled.safe {work : Work Cache α} {result : Except Fault α}
    (settled : Settled library work result) (isGood : ∀ value, result = .ok value → good value)
    (isDynamic : ∀ fault, result = .error fault → fault.IsDynamic) :
    Work.Safe (Cache.Faithful library) Fault.IsDynamic good work := by
  intro cache faithful
  obtain ⟨isResult, stillFaithful⟩ := settled cache faithful
  rw [isResult]
  exact ⟨stillFaithful, isGood, isDynamic⟩

theorem Render.withCache_safe {work : Work Cache α}
    (safe : Work.Safe (Cache.Faithful library) Fault.IsDynamic good work) :
    Work.Safe (Session.IsFaithful library) Fault.IsDynamic good (Render.withCache work) :=
  fun session faithful => safe session.cache faithful

theorem Render.inChild_safe (bindings : Entries) (label : String) {work : Render α}
    (safe : Work.Safe (Session.IsFaithful library) Fault.IsDynamic good work) :
    Work.Safe (Session.IsFaithful library) Fault.IsDynamic good
      (Render.inChild bindings label work) :=
  fun session faithful => safe ⟨(session.scope.enter bindings label).2, session.cache⟩ faithful

theorem Composer.inScope_safe (scope : Scope) {work : Render α}
    (safe : Work.Safe (Session.IsFaithful library) Fault.IsDynamic good work) :
    Work.Safe (Cache.Faithful library) Fault.IsDynamic good (Composer.inScope scope work) :=
  fun cache faithful => safe ⟨scope, cache⟩ faithful

end Sessions

namespace Composer.Vets

variable {composer : Composer} {pool : List Node → Prop}

/-- The texts that may be repeated. -/
def Readable (pool : List Node → Prop) (text : String) : Prop :=
  ∃ deeper, parseTemplate text = .ok deeper ∧ pool deeper

theorem inlineNodes_safe (library : Library) {text : String} (readable : Readable pool text) :
    Work.Safe (Cache.Faithful library) Fault.IsDynamic pool (inlineNodes text) := by
  obtain ⟨deeper, read, isGood⟩ := readable
  refine (inlineNodes_settled library text).safe ?_ ?_
  · intro nodes isRead
    cases read.symm.trans isRead
    exact isGood
  · intro fault failed
    cases read.symm.trans failed

/-- What renders one level below is safe for the templates of the set. -/
def BelowSafe (composer : Composer) (pool : List Node → Prop) (below : Below) : Prop :=
  ∀ render, below = some render → ∀ nodes, pool nodes →
    Render.IsSafe (Session.IsFaithful composer.library) Fault.IsDynamic (render nodes)

theorem goBelow (target : String) {below : Below} (belowSafe : BelowSafe composer pool below) :
    Work.Safe (Session.IsFaithful composer.library) Fault.IsDynamic
      (fun render => ∀ nodes, pool nodes →
        Render.IsSafe (Session.IsFaithful composer.library) Fault.IsDynamic (render nodes))
      (composer.goBelow target below) := by
  cases below with
  | none => exact .throw rfl
  | some render => exact .pure (belowSafe render rfl)

theorem renderEach_safe {library : Library} {render : List Node → Render String}
    (binding : String) {nodes : List Node}
    (renderSafe : Render.IsSafe (Session.IsFaithful library) Fault.IsDynamic (render nodes))
    (values : List Value) :
    Render.IsSafe (Session.IsFaithful library) Fault.IsDynamic
      (renderEach render binding nodes values) := by
  induction values with
  | nil => exact .pure trivial
  | cons value values inductionHypothesis =>
      refine .bind (Render.inChild_safe _ _ renderSafe) ?_
      intro first _
      refine .bind inductionHypothesis ?_
      intro rest _
      exact .pure trivial

theorem repeatTemplate_safe {below : Below} (belowSafe : BelowSafe composer pool below)
    {template : String} (readable : Readable pool template) (collection : Value)
    (binding : Option String) :
    Render.IsSafe (Session.IsFaithful composer.library) Fault.IsDynamic
      (composer.repeatTemplate below template collection binding) := by
  unfold Composer.repeatTemplate
  split
  · exact .pure trivial
  · split
    · exact .throw rfl
    · refine .bind (goBelow _ belowSafe) ?_
      intro render renderSafe
      refine .bind (Render.withCache_safe (inlineNodes_safe composer.library readable)) ?_
      intro nodes isGood
      exact renderEach_safe _ (renderSafe nodes isGood) _

/-- The template of a call that repeats one is its value. -/
theorem repeatArguments_safe (library : Library) (template : String) (arguments : List Value) :
    Work.Safe (Session.IsFaithful library) Fault.IsDynamic (fun call => call.1 = template)
      (Work.ofExcept ((repeatArguments (.str template) arguments).mapError .mishap)) := by
  cases read : repeatArguments (.str template) arguments with
  | error cause => exact .throw rfl
  | ok call =>
      refine .pure ?_
      obtain ⟨binding, -, read⟩ := bind_eq_ok.1 read
      cases read
      rfl

section

variable (vets : composer.Vets pool)

include vets

theorem findPage_safe (name : String) :
    Work.Safe (Cache.Faithful composer.library) Fault.IsDynamic
      (fun found => ∀ page, found = some page → pool page.nodes)
      (composer.library.findPage name) := by
  refine (composer.library.findPage_settled name).safe ?_ (vets.readable name)
  rintro found read page rfl
  exact vets.page name page read

theorem getPage_safe (name kind : String) :
    Work.Safe (Cache.Faithful composer.library) Fault.IsDynamic (fun page => pool page.nodes)
      (composer.library.getPage name kind) := by
  refine .bind (vets.findPage_safe name) ?_
  intro found isGood
  cases found with
  | some page => exact .pure (isGood page rfl)
  | none => exact .throw rfl

theorem firstPage_safe (names : List String) :
    Work.Safe (Cache.Faithful composer.library) Fault.IsDynamic
      (fun found => ∀ page, found = some page → pool page.nodes)
      (composer.library.firstPage names) := by
  induction names with
  | nil => exact .pure nofun
  | cons name names inductionHypothesis =>
      refine .bind (vets.findPage_safe name) ?_
      intro found isGood
      cases found with
      | some page => exact .pure isGood
      | none => exact inductionHypothesis

theorem firstOtherPage_safe (id : String) (names : List String) :
    Work.Safe (Cache.Faithful composer.library) Fault.IsDynamic
      (fun found => ∀ page, found = some page → pool page.nodes)
      (composer.library.firstOtherPage id names) := by
  induction names with
  | nil => exact .pure nofun
  | cons name names inductionHypothesis =>
      refine .bind (vets.findPage_safe name) ?_
      intro found isGood
      cases found with
      | none => exact inductionHypothesis
      | some page =>
          dsimp only
          by_cases differs : page.id != id
          · rw [if_pos differs]
            exact .pure isGood
          · rw [if_neg differs]
            exact inductionHypothesis

theorem findLayout_safe (page : Page) (layoutName : String) :
    Work.Safe (Cache.Faithful composer.library) Fault.IsDynamic
      (fun found => ∀ layout, found = some layout → pool layout.nodes)
      (composer.library.findLayout page layoutName) := by
  unfold Library.findLayout
  cases page.layout with
  | none => exact vets.firstOtherPage_safe _ _
  | some name =>
      dsimp only
      by_cases isNone : name == FrontMatter.noLayout
      · rw [if_pos isNone]
        exact .pure nofun
      · rw [if_neg isNone]
        refine .bind (vets.firstPage_safe _) ?_
        intro found isGood
        cases found with
        | some layout => exact .pure isGood
        | none => exact .throw rfl

theorem includePage_safe {below : Below} (belowSafe : BelowSafe composer pool below) (name : String)
    (arguments : Entries) :
    Render.IsSafe (Session.IsFaithful composer.library) Fault.IsDynamic
      (composer.includePage below name arguments) := by
  refine .bind (goBelow name belowSafe) ?_
  intro render renderSafe
  refine .bind (Render.withCache_safe (vets.getPage_safe name _)) ?_
  intro page isGood
  exact Render.inChild_safe _ _ (renderSafe page.nodes isGood)

/-- A filter that the registry has is safe; if it repeats templates, it is given one to repeat. -/
theorem act_safe {below : Below} (belowSafe : BelowSafe composer pool below) {spec : FilterSpec}
    (registered : spec ∈ composer.registry.specs) {value : Value} (arguments : List Value)
    (repeats : spec.name = repeatingFilter → ∃ text, value = .str text ∧ Readable pool text) :
    Render.IsSafe (Session.IsFaithful composer.library) Fault.IsDynamic
      (composer.act below spec.action value arguments) := by
  have tame := vets.tame spec registered
  unfold FilterSpec.IsTame at tame
  cases isAction : spec.action with
  | plain run =>
      rw [isAction] at tame
      exact .ofExcept (fun _ _ => trivial) (tame value arguments)
  | observing run =>
      rw [isAction] at tame
      refine .bind (fun session faithful => ⟨faithful, fun _ _ => trivial, fun _ => nofun⟩) ?_
      intro scope _
      exact .ofExcept (fun _ _ => trivial) (tame scope value arguments)
  | includePage =>
      refine .bind (mishap_safe (fun _ => rfl) _) ?_
      intro (name, entries) _
      refine .bind (vets.includePage_safe belowSafe name entries) ?_
      intro text _
      exact .pure trivial
  | repeatTemplate =>
      rw [isAction] at tame
      obtain ⟨template, rfl, readable⟩ := repeats tame
      refine .bind (repeatArguments_safe composer.library template arguments) ?_
      rintro ⟨_, collection, binding⟩ rfl
      refine .bind (repeatTemplate_safe belowSafe readable collection binding) ?_
      intro text _
      exact .pure trivial

theorem call_safe {below : Below} (belowSafe : BelowSafe composer pool below) :
    CallsSafe (fun name => composer.registry.contains name = true) (Readable pool)
      (Session.IsFaithful composer.library) Fault.IsDynamic (composer.call below) where
  mishap _ := rfl
  call := by
    intro name value arguments known repeats
    obtain ⟨spec, found⟩ := Option.isSome_iff_exists.1 known
    have registered := List.mem_of_find?_eq_some found
    have sameName : spec.name = name := by simpa using List.find?_some found
    unfold Composer.call
    rw [found]
    dsimp only
    by_cases accepted : spec.arity.accepts arguments.length
    · rw [if_pos accepted]
      refine .rename (isDynamic_blame name) (vets.act_safe belowSafe registered arguments ?_)
      exact fun isRepeating => repeats (sameName.symm.trans isRepeating)
    · rw [if_neg accepted]
      exact .throw rfl

/-! ## Nodes -/

theorem renderNode_safe {below : Below} (belowSafe : BelowSafe composer pool below) {node : Node}
    (permitted : Permitted (fun name => composer.registry.contains name = true) (Readable pool)
      node.filters (node.inlineTexts repeatingFilter) node.repeatsTexts) :
    Render.IsSafe (Session.IsFaithful composer.library) Fault.IsDynamic
      (composer.renderNode below node) := by
  cases node with
  | literal text => exact .pure trivial
  | expression pipeline source line column =>
      have calls := vets.call_safe belowSafe
      refine .bind (calls.evaluatePipeline pipeline source line column permitted) ?_
      intro value _
      exact mishap_safe (fun _ => rfl) _

theorem renderRow_safe {below : Below} (belowSafe : BelowSafe composer pool below)
    {nodes : List Node}
    (permitted : ∀ node ∈ nodes, Permitted (fun name => composer.registry.contains name = true)
      (Readable pool) node.filters (node.inlineTexts repeatingFilter) node.repeatsTexts) :
    Render.IsSafe (Session.IsFaithful composer.library) Fault.IsDynamic
      (composer.renderRow below nodes) := by
  induction nodes with
  | nil => exact .pure trivial
  | cons node nodes inductionHypothesis =>
      obtain ⟨firstPermitted, othersPermitted⟩ := List.forall_mem_cons.1 permitted
      refine .bind (vets.renderNode_safe belowSafe firstPermitted) ?_
      intro first _
      refine .bind (inductionHypothesis othersPermitted) ?_
      intro rest _
      exact .pure trivial

/-- Each node of a template of the set is permitted. -/
theorem permitted {nodes : List Node} (isGood : pool nodes) : ∀ node ∈ nodes,
    Permitted (fun name => composer.registry.contains name = true) (Readable pool) node.filters
      (node.inlineTexts repeatingFilter) node.repeatsTexts := by
  intro node member
  refine ⟨fun name named => ?_, fun text handed => ?_, vets.repeats nodes isGood node member⟩
  · exact vets.known nodes isGood name
      (List.mem_eraseDups.2 (List.mem_flatMap.2 ⟨node, member, named⟩))
  · exact vets.inside nodes isGood text
      (List.mem_eraseDups.2 (List.mem_flatMap.2 ⟨node, member, handed⟩))

/-- However many levels are left, the templates of the set are safe on them. -/
theorem below_safe (level : Nat) : BelowSafe composer pool (composer.below level) := by
  induction level with
  | zero => exact nofun
  | succ level inductionHypothesis =>
      rintro render isBelow nodes isGood
      cases isBelow
      exact vets.renderRow_safe inductionHypothesis (vets.permitted isGood)

theorem renderNodes_safe (level : Nat) {nodes : List Node} (isGood : pool nodes) :
    Render.IsSafe (Session.IsFaithful composer.library) Fault.IsDynamic
      (composer.renderNodes level nodes) :=
  vets.renderRow_safe (vets.below_safe level) (vets.permitted isGood)

/-! ## Pages -/

theorem renderPage_safe {page : Page} (isGood : pool page.nodes) (arguments : Entries) :
    Work.Safe (Cache.Faithful composer.library) Fault.IsDynamic (fun _ => True)
      (composer.renderPage page arguments) := by
  refine .bind (vets.findLayout_safe page _) ?_
  intro found isLayout
  refine Composer.inScope_safe _ (.bind (vets.renderNodes_safe _ isGood) ?_)
  intro body _
  cases found with
  | none => exact .pure trivial
  | some layout =>
      refine .bind (fun session faithful => ⟨faithful, fun _ _ => trivial, fun _ => nofun⟩) ?_
      exact fun _ _ => vets.renderNodes_safe _ (isLayout layout rfl)

/-- A page that is looked up and rendered fails for dynamic reasons only. -/
theorem render_safe (name : String) (arguments : Entries) :
    Work.Safe (Cache.Faithful composer.library) Fault.IsDynamic (fun _ => True)
      (composer.library.getPage name Library.pageKind >>= fun page =>
        composer.renderPage page arguments) :=
  .bind (vets.getPage_safe name _) fun _ isGood => vets.renderPage_safe isGood arguments

end

end Composer.Vets

end Folio
