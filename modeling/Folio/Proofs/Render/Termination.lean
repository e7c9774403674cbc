import Folio.Proofs.Render.Course
import Folio.Proofs.Render.Visibility

/-!
Contract: every render ends.

Owns: courses that carry out a piece of work to its outcome; that the course of every expression does, by
induction on its tree, and the course of every template, by induction on the levels that are left below its
scope; and the law that the render of a page ends with its text or its fault after finitely many steps, its
children never nested deeper than the limit.

Does not own: what a step does.
-/

namespace Folio

open Folio.Template Folio.Course

namespace Composer

variable {composer : Composer} {level : Nat}

/-! ## Carrying out work -/

/-- A task above what waits already. -/
def doing (task : Task) : List Pending → Session → Point :=
  fun pending session => ⟨task, pending, session⟩

/-- On every session with so many levels left, the course from a start answers with the outcome of the work,
in the scope that it began in. What waits below is not touched. -/
def Performs (composer : Composer) (level : Nat) (start : List Pending → Session → Point)
    (work : Render Value) : Prop :=
  ∀ pending session, composer.levelsBelow session.scope = level →
    composer.Leads (start pending session) ⟨.answer (work session).1, pending, (work session).2⟩ ∧
      (work session).2.scope = session.scope

namespace Performs

variable {start next : List Pending → Session → Point} {work : Render Value} {frame : Pending}

theorem answer (result : Except Fault Value) :
    Performs composer level (doing (.answer result)) (Work.ofExcept result) :=
  fun _ _ _ => ⟨.refl, rfl⟩

/-- One step, and then the course from there. -/
theorem of_step (performs : Performs composer level next work)
    (stepped : ∀ pending session, composer.step (start pending session) = some (next pending session)) :
    Performs composer level start work := by
  intro pending session levels
  obtain ⟨leads, sameScope⟩ := performs pending session levels
  exact ⟨.head (stepped pending session) leads, sameScope⟩

/-- A task that comes to another one at once, in whatever scope. -/
theorem of_expand {task task' : Task} (performs : Performs composer level (doing task') work)
    (isQuiet : task.isQuiet = true) (expanded : ∀ scope, composer.expand scope task = (task', [])) :
    Performs composer level (doing task) work := by
  refine performs.of_step ?_
  intro pending session
  rw [doing, step_quiet composer isQuiet, expanded]
  rfl

/-- A piece of work and what waits for its value are done one after the other. -/
theorem bind {rest : Value → Render Value} (first : Performs composer level start work)
    (second : ∀ value, Performs composer level (doing (frame.task value)) (rest value))
    (isOrdinary : frame.isOrdinary = true) :
    Performs composer level (fun pending => start (frame :: pending)) (work >>= rest) := by
  intro pending session levels
  obtain ⟨leads, sameScope⟩ := first (frame :: pending) session levels
  rw [Work.bind_apply]
  rcases run : work session with ⟨result, between⟩
  rw [run] at leads sameScope
  have taken : composer.step ⟨.answer result, frame :: pending, between⟩ =
      some (frame.resume result pending between) := rfl
  cases result with
  | error fault =>
      rw [Pending.resume_error isOrdinary] at taken
      exact ⟨leads.tail taken, sameScope⟩
  | ok value =>
      rw [Pending.resume_ok isOrdinary] at taken
      rw [← sameScope] at levels
      obtain ⟨later, laterScope⟩ := second value pending between levels
      exact ⟨(leads.tail taken).trans later, laterScope.trans sameScope⟩

/-- A fault behind a call is reported under the name of the filter. -/
theorem blamed (name : String) (performs : Performs composer level start work) :
    Performs composer level (fun pending => start (.call name :: pending))
      (tryCatch work fun fault => throw (blame name fault)) := by
  intro pending session levels
  obtain ⟨leads, sameScope⟩ := performs (.call name :: pending) session levels
  rw [Work.rename_apply]
  rcases run : work session with ⟨result, after⟩
  rw [run] at leads sameScope
  have taken : composer.step ⟨.answer result, .call name :: pending, after⟩ =
      some (Pending.resume (.call name) result pending after) := rfl
  cases result with
  | error fault => exact ⟨leads.tail taken, sameScope⟩
  | ok value => exact ⟨leads.tail taken, sameScope⟩

end Performs

/-! ## Expressions -/

/-- Calls of filters are carried out. -/
def CallsPerform (composer : Composer) (level : Nat) (call : FilterCall) : Prop :=
  ∀ name value arguments,
    Performs composer level (doing (.call name value arguments)) (call name value arguments)

/-- What is done with the values of a row of expressions. -/
def finishPurpose (call : FilterCall) : Purpose → List Value → Render Value
  | .array, values => pure (.list values)
  | .call name value, values => call name value values

/-- Goes on with a result that is known, or fails with its mishap. -/
theorem after_performs {α : Type} {result : Except Mishap α} {next : α → Task} {rest : α → Render Value}
    (performs : ∀ found, Performs composer level (doing (next found)) (rest found)) :
    Performs composer level (doing (.after result next))
      (Work.ofExcept (result.mapError .mishap) >>= rest) := by
  cases result with
  | error cause => exact .answer (.error (.mishap cause))
  | ok found => exact performs found

section Expressions

variable {call : FilterCall}

mutual

theorem evaluate_performs (calls : CallsPerform composer level call) : (expr : Expr) →
    Performs composer level (doing (.evaluate expr)) (evaluate call expr)
  | .literal literal => by
      rw [evaluate]
      exact .of_step (.answer _) fun _ _ => rfl
  | .path head segments => by
      intro pending session levels
      have stepped := @step_quiet composer (.evaluate (.path head segments)) rfl pending session
      rw [expand] at stepped
      rw [evaluate, Work.bind_apply, Render.resolve]
      cases found : session.scope.resolve head with
      | none =>
          rw [found] at stepped
          exact ⟨.single stepped, rfl⟩
      | some value =>
          rw [found] at stepped
          obtain ⟨leads, sameScope⟩ := follow_performs calls segments value pending session levels
          exact ⟨.head stepped leads, sameScope⟩
  | .array items => by
      rw [evaluate]
      exact .of_step (gather_performs calls items .array []) fun _ _ => rfl
  | .object entries => by
      rw [evaluate]
      exact .of_step (put_performs calls entries []) fun _ _ => rfl
  | .pipeline root stages => by
      have rest : ∀ value, Performs composer level (doing (Pending.task (.stages stages) value))
          (runStages call stages value) := run_performs calls stages
      have both := (evaluate_performs calls root).bind rest rfl
      rw [evaluate]
      exact both.of_step fun _ _ => rfl

theorem follow_performs (calls : CallsPerform composer level call) : (segments : List Segment) →
    (value : Value) →
    Performs composer level (doing (.follow segments value)) (followSegments call segments value)
  | [], value => by
      rw [followSegments]
      exact .of_step (.answer _) fun _ _ => rfl
  | .property name :: segments, value => by
      have later : ∀ found, Performs composer level (doing (Pending.task (.key segments value) found))
          (Render.property value found >>= followSegments call segments) :=
        fun _ => after_performs (follow_performs calls segments)
      cases value with
      | null =>
          rw [followSegments]
          exact .of_step (.answer _) fun _ _ => rfl
      | _ =>
          rw [followSegments, evaluateSegment]
          · have both := (Performs.answer (.ok (.str name))).bind later rfl
            exact both.of_step fun _ _ => rfl
          · exact nofun
  | .index key :: segments, value => by
      have later : ∀ found, Performs composer level (doing (Pending.task (.key segments value) found))
          (Render.property value found >>= followSegments call segments) :=
        fun _ => after_performs (follow_performs calls segments)
      cases value with
      | null =>
          rw [followSegments]
          exact .of_step (.answer _) fun _ _ => rfl
      | _ =>
          rw [followSegments, evaluateSegment]
          · have both := (evaluate_performs calls key).bind later rfl
            exact both.of_step fun _ _ => rfl
          · exact nofun

theorem gather_performs (calls : CallsPerform composer level call) : (items : List Expr) →
    (purpose : Purpose) → (gathered : List Value) →
    Performs composer level (doing (.gather purpose gathered items))
      (evaluateItems call items >>= fun values => finishPurpose call purpose (gathered ++ values))
  | [], purpose, gathered => by
      rw [evaluateItems]
      show Performs composer level _ (finishPurpose call purpose (gathered ++ []))
      rw [List.append_nil]
      cases purpose with
      | array => exact .of_step (.answer _) fun _ _ => rfl
      | call name value => exact .of_step (calls name value gathered) fun _ _ => rfl
  | item :: items, purpose, gathered => by
      rw [evaluateItems, Work.bind_assoc]
      have rest : ∀ value, Performs composer level (doing (Pending.task (.item purpose gathered items) value))
          ((evaluateItems call items >>= fun values => pure (value :: values)) >>= fun values =>
            finishPurpose call purpose (gathered ++ values)) := by
        intro value
        have later := gather_performs calls items purpose (gathered ++ [value])
        simp only [List.append_assoc, List.singleton_append] at later
        rw [Work.bind_assoc]
        exact later
      have both := (evaluate_performs calls item).bind rest rfl
      exact both.of_step fun _ _ => by cases purpose <;> rfl

theorem put_performs (calls : CallsPerform composer level call) : (entries : List (String × Expr)) →
    (before : Entries) →
    Performs composer level (doing (.put entries before))
      (evaluateEntries call entries before >>= fun found => pure (.map found))
  | [], before => by
      rw [evaluateEntries]
      exact .of_step (.answer _) fun _ _ => rfl
  | (name, expr) :: entries, before => by
      have rest : ∀ value, Performs composer level (doing (Pending.task (.entry name entries before) value))
          (evaluateEntries call entries (Entries.put before (.str name) value) >>= fun found =>
            pure (.map found)) :=
        fun value => put_performs calls entries (Entries.put before (.str name) value)
      have both := (evaluate_performs calls expr).bind rest rfl
      rw [evaluateEntries, Work.bind_assoc]
      exact both.of_step fun _ _ => rfl

theorem run_performs (calls : CallsPerform composer level call) : (stages : List Stage) →
    (value : Value) → Performs composer level (doing (.run stages value)) (runStages call stages value)
  | [], value => by
      rw [runStages]
      exact .of_step (.answer _) fun _ _ => rfl
  | .mk name arguments line column :: stages, value => by
      have rest : ∀ value, Performs composer level (doing (Pending.task (.stages stages) value))
          (runStages call stages value) := run_performs calls stages
      have both := (gather_performs calls arguments (.call name value) []).bind rest rfl
      rw [runStages, ← Work.bind_assoc]
      exact both.of_step fun _ _ => rfl

end

end Expressions

/-! ## Rows of nodes -/

/-- Rows of nodes are carried out with so many levels left below them. -/
def RowsPerform (composer : Composer) (level : Nat) : Prop :=
  ∀ nodes before, Performs composer level (doing (.row nodes before))
    (composer.renderNodes level nodes >>= fun text => pure (.str (before ++ text)))

/-- An empty text behind another one. -/
theorem pure_behind (before : String) :
    ((pure "" : Render String) >>= fun text => pure (.str (before ++ text))) =
      (pure (.str before) : Render Value) := by
  show (pure (.str (before ++ "")) : Render Value) = _
  rw [String.append_empty]

theorem rows_perform_of_calls (calls : CallsPerform composer level (composer.call (composer.below level))) :
    RowsPerform composer level := by
  intro nodes
  unfold renderNodes
  induction nodes with
  | nil =>
      intro before
      rw [renderRow, pure_behind]
      exact .of_step (.answer _) fun _ _ => rfl
  | cons node nodes inductionHypothesis =>
      intro before
      have rests : ∀ text, Performs composer level (doing (.row nodes (before ++ text)))
          ((composer.renderRow (composer.below level) nodes >>= fun rest => pure (text ++ rest)) >>=
            fun text => pure (.str (before ++ text))) := by
        intro text
        have later := inductionHypothesis (before ++ text)
        simp only [String.append_assoc] at later
        rw [Work.bind_assoc]
        exact later
      rw [renderRow, Work.bind_assoc]
      cases node with
      | literal text => exact (rests text).of_step fun _ _ => rfl
      | expression pipeline source line column =>
          have shows : ∀ value, Performs composer level (doing (Pending.task (.node nodes before) value))
              (Work.ofExcept (value.text.mapError .mishap) >>= _) := fun _ => after_performs rests
          have whole := (evaluate_performs calls (.pipeline pipeline.root pipeline.stages)).bind shows rfl
          rw [evaluate] at whole
          rw [renderNode, Work.bind_assoc]
          exact whole.of_step fun _ _ => rfl

/-! ## Children -/

theorem levelsBelow_enter {scope : Scope} (levels : composer.levelsBelow scope = level + 1)
    (bindings : Entries) (label : String) :
    composer.levelsBelow (scope.enter bindings label).2 = level := by
  unfold levelsBelow at levels ⊢
  show (composer.settings.maxDepth - ((scope.nesting + 1 : Nat) : Int)).toNat = level
  omega

theorem hasRoom_eq (scope : Scope) : composer.hasRoom scope = decide (0 < composer.levelsBelow scope) := by
  unfold hasRoom levelsBelow
  rw [decide_eq_decide]
  omega

/-- Work in a child takes one level, and the child is left again. -/
theorem Performs.inChild {task : Task} {work : Render Value}
    (performs : Performs composer level (doing task) work) (bindings : Entries) (label : String) :
    Performs composer (level + 1)
      (fun pending session => Point.inChild ⟨task, pending, session⟩ bindings label)
      (Render.inChild bindings label work) := by
  intro pending session levels
  have left := session.scope.leave_enter bindings label
  obtain ⟨leads, sameScope⟩ := performs (.child (session.scope.enter bindings label).1 :: pending)
    { session with scope := (session.scope.enter bindings label).2 }
    (levelsBelow_enter levels bindings label)
  rw [Render.inChild_apply]
  rcases run : work { session with scope := (session.scope.enter bindings label).2 } with ⟨result, after⟩
  rw [run] at leads sameScope
  have taken : composer.step
      ⟨.answer result, .child (session.scope.enter bindings label).1 :: pending, after⟩ =
        some ⟨.answer result, pending,
          { after with scope := after.scope.leave (session.scope.enter bindings label).1 }⟩ := by
    cases result <;> rfl
  refine ⟨leads.tail taken, ?_⟩
  dsimp only at sameScope ⊢
  rw [sameScope]
  exact left

/-- A text that is found in a child is the value that is found there. -/
theorem inChild_text (bindings : Entries) (label : String) (work : Render String) :
    (Render.inChild bindings label work >>= fun text => pure (.str text)) =
      Render.inChild bindings label (work >>= fun text => (pure (.str text) : Render Value)) := by
  funext session
  rw [Work.bind_apply, Render.inChild_apply, Render.inChild_apply, Work.bind_apply]
  rcases work { session with scope := (session.scope.enter bindings label).2 } with ⟨result, after⟩
  cases result <;> rfl

/-- A template renders in a child where there is room for one. -/
theorem rendering_performs (rows : RowsPerform composer level) (nodes : List Node) (bindings : Entries)
    (label : String) :
    Performs composer (level + 1)
      (fun pending session => Point.inChild ⟨.row nodes "", pending, session⟩ bindings label)
      (Render.inChild bindings label (composer.renderNodes level nodes) >>= fun text =>
        pure (.str text)) := by
  have inside := rows nodes ""
  simp only [String.empty_append] at inside
  rw [inChild_text]
  exact inside.inChild bindings label

/-- A template is repeated round after round, each in a child of its own. -/
theorem rounds_perform (rows : RowsPerform composer level) (binding : String) (nodes : List Node)
    (values : List Value) (before : String) :
    Performs composer (level + 1) (doing (.rounds binding nodes values before))
      (renderEach (composer.renderNodes level) binding nodes values >>= fun text =>
        pure (.str (before ++ text))) := by
  induction values generalizing before with
  | nil =>
      rw [renderEach, pure_behind]
      exact .of_step (.answer _) fun _ _ => rfl
  | cons value values inductionHypothesis =>
      have rest : ∀ found, Performs composer (level + 1)
          (doing (Pending.task (.round binding nodes values before) found))
          (Work.ofExcept (found.text.mapError .mishap) >>= fun first =>
            renderEach (composer.renderNodes level) binding nodes values >>= fun text =>
              pure (.str (before ++ (first ++ text)))) := by
        intro found
        refine after_performs ?_
        intro first
        have later := inductionHypothesis (before ++ first)
        simp only [String.append_assoc] at later
        exact later
      have both := (rendering_performs rows nodes [(.str binding, value)] (repeatLabel binding)).bind rest
        rfl
      rw [renderEach, Work.bind_assoc]
      simp only [Work.bind_assoc] at both ⊢
      exact both.of_step fun _ _ => rfl

/-! ## Filters -/

/-- What renders one level below is carried out, if there is such a level. -/
def BelowPerforms (composer : Composer) (level : Nat) : Prop :=
  ∀ lower, level = lower + 1 → RowsPerform composer lower

theorem includePage_performs (belows : BelowPerforms composer level) (name : String)
    (arguments : Entries) :
    Performs composer level (doing (.includePage name arguments))
      (composer.includePage (composer.below level) name arguments >>= fun text => pure (.str text)) := by
  intro pending session levels
  have room := composer.hasRoom_eq session.scope
  rw [levels] at room
  cases level with
  | zero =>
      have refused : composer.step (doing (.includePage name arguments) pending session) =
          some ⟨.answer (.error (.tooDeep composer.settings.maxDepth name)), pending, session⟩ := by
        rw [doing, step, room]
        rfl
      exact ⟨.single refused, rfl⟩
  | succ lower =>
      have looks : composer.includePage (composer.below (lower + 1)) name arguments =
          Render.withCache (composer.library.getPage name Library.partialKind) >>= fun page =>
            Render.inChild (Entries.overlay page.arguments arguments) ("partial:" ++ page.id)
              (composer.renderNodes lower page.nodes) := rfl
      rw [looks, Work.bind_assoc, Work.bind_apply, Render.withCache_apply]
      rcases read : composer.library.getPage name Library.partialKind session.cache with ⟨found, cache⟩
      cases found with
      | error fault =>
          have failed : composer.step (doing (.includePage name arguments) pending session) =
              some ⟨.answer (.error fault), pending, { session with cache := cache }⟩ := by
            rw [doing, step, room, read]
            rfl
          exact ⟨.single failed, rfl⟩
      | ok page =>
          have opens : composer.step (doing (.includePage name arguments) pending session) =
              some (Point.inChild ⟨.row page.nodes "", pending, { session with cache := cache }⟩
                (Entries.overlay page.arguments arguments) ("partial:" ++ page.id)) := by
            rw [doing, step, room, read]
            rfl
          obtain ⟨leads, sameScope⟩ := rendering_performs (belows lower rfl) page.nodes
            (Entries.overlay page.arguments arguments) ("partial:" ++ page.id) pending
            { session with cache := cache } levels
          exact ⟨.head opens leads, sameScope⟩

theorem begin_performs (belows : BelowPerforms composer level) (binding template : String)
    (values : List Value) :
    Performs composer level (doing (.begin binding template values))
      ((composer.goBelow (repeatLabel binding) (composer.below level) >>= fun render =>
        Render.withCache (inlineNodes template) >>= fun nodes => renderEach render binding nodes values) >>=
          fun text => pure (.str text)) := by
  intro pending session levels
  have room := composer.hasRoom_eq session.scope
  rw [levels] at room
  cases level with
  | zero =>
      have refused : composer.step (doing (.begin binding template values) pending session) =
          some ⟨.answer (.error (.tooDeep composer.settings.maxDepth (repeatLabel binding))), pending,
            session⟩ := by
        rw [doing, step, room]
        rfl
      exact ⟨.single refused, rfl⟩
  | succ lower =>
      have looks : (composer.goBelow (repeatLabel binding) (composer.below (lower + 1)) >>= fun render =>
          Render.withCache (inlineNodes template) >>= fun nodes => renderEach render binding nodes values) =
            Render.withCache (inlineNodes template) >>= fun nodes =>
              renderEach (composer.renderNodes lower) binding nodes values := rfl
      rw [looks, Work.bind_assoc, Work.bind_apply, Render.withCache_apply]
      rcases read : inlineNodes template session.cache with ⟨found, cache⟩
      cases found with
      | error fault =>
          have failed : composer.step (doing (.begin binding template values) pending session) =
              some ⟨.answer (.error fault), pending, { session with cache := cache }⟩ := by
            rw [doing, step, room, read]
            rfl
          exact ⟨.single failed, rfl⟩
      | ok nodes =>
          have begins : composer.step (doing (.begin binding template values) pending session) =
              some ⟨.rounds binding nodes values "", pending, { session with cache := cache }⟩ := by
            rw [doing, step, room, read]
            rfl
          have rounds := rounds_perform (belows lower rfl) binding nodes values ""
          simp only [String.empty_append] at rounds
          obtain ⟨leads, sameScope⟩ := rounds pending { session with cache := cache } levels
          exact ⟨.head begins leads, sameScope⟩

theorem repeatTemplate_performs (belows : BelowPerforms composer level) (template : String)
    (collection : Value) (binding : Option String) :
    Performs composer level (doing (.repeatTemplate template collection binding))
      (composer.repeatTemplate (composer.below level) template collection binding >>= fun text =>
        pure (.str text)) := by
  by_cases isNull : collection = .null
  · subst isNull
    exact .of_step (.answer (.ok (.str ""))) fun _ _ => rfl
  · rw [repeatTemplate]
    · cases members : collection.members? with
      | none =>
          refine .of_expand (.answer (.error (.mishap (.notRepeatable collection.kindName)))) rfl ?_
          intro scope
          simp only [expand, members]
      | some values =>
          refine .of_expand (begin_performs belows _ template values) rfl ?_
          intro scope
          simp only [expand, members]
    · exact isNull

theorem act_performs (belows : BelowPerforms composer level) (action : FilterAction) (value : Value)
    (arguments : List Value) :
    Performs composer level (doing (.act action value arguments))
      (composer.act (composer.below level) action value arguments) := by
  cases action with
  | plain run => exact .of_step (.answer (run value arguments)) fun _ _ => rfl
  | observing run =>
      intro pending session levels
      exact ⟨.single rfl, rfl⟩
  | includePage =>
      have called := @after_performs composer level _ (includeArguments value arguments) _ _
        fun call => includePage_performs belows call.1 call.2
      exact called.of_step fun _ _ => rfl
  | repeatTemplate =>
      have called := @after_performs composer level _ (repeatArguments value arguments) _ _
        fun call => repeatTemplate_performs belows call.1 call.2.1 call.2.2
      exact called.of_step fun _ _ => rfl

theorem calls_perform (belows : BelowPerforms composer level) :
    CallsPerform composer level (composer.call (composer.below level)) := by
  intro name value arguments
  unfold call
  cases found : composer.registry.find? name with
  | none =>
      refine .of_expand (.answer (.error (.unknownFilter name))) rfl ?_
      intro scope
      simp only [expand, found]
  | some spec =>
      dsimp only
      by_cases accepted : spec.arity.accepts arguments.length = true
      · rw [if_pos accepted]
        refine ((act_performs belows spec.action value arguments).blamed name).of_step ?_
        intro pending session
        rw [doing, step_quiet composer rfl]
        simp only [expand, found, if_pos accepted]
        rfl
      · rw [if_neg accepted]
        refine .of_expand (.answer (.error
          (.wrongArity name arguments.length spec.arity.least spec.arity.most))) rfl ?_
        intro scope
        simp only [expand, found, if_neg accepted]

/-- Templates are carried out with any number of levels left: the induction is on that number, since the next
template is not a part of the one that asks for it. -/
theorem rows_perform (composer : Composer) (level : Nat) : RowsPerform composer level := by
  induction level with
  | zero => exact rows_perform_of_calls (calls_perform fun _ => nofun)
  | succ level inductionHypothesis =>
      refine rows_perform_of_calls (calls_perform ?_)
      intro lower isLower
      cases isLower
      exact inductionHypothesis

/-! ## Pages -/

/-- The course of a template answers with its text or its fault. -/
theorem renderNodes_leads (composer : Composer) (nodes : List Node) (pending : List Pending)
    {session after : Session} {result : Except Fault String}
    (run : composer.renderNodes (composer.levelsBelow session.scope) nodes session = (result, after)) :
    composer.Leads ⟨.row nodes "", pending, session⟩ ⟨.answer (result.map .str), pending, after⟩ ∧
      after.scope = session.scope := by
  have performs := composer.rows_perform (composer.levelsBelow session.scope) nodes "" pending session rfl
  simp only [String.empty_append] at performs
  rw [Work.bind_apply, run] at performs
  cases result with
  | error fault => exact performs
  | ok text => exact performs

theorem levelsBelow_pageScope (composer : Composer) (page : Page) (layout : Option Page)
    (arguments : Entries) :
    composer.levelsBelow (composer.pageScope page layout arguments) = composer.levelsBelow .empty := by
  cases layout <;> rfl

/-- The course of a page in its layout: the layout comes behind the body of the page, in the scope of the
page with the body added. -/
theorem renderInLayout_leads (composer : Composer) (page : Page) (layout : Option Page) {session : Session}
    (levels : composer.levelsBelow session.scope = composer.levelsBelow .empty) :
    composer.Leads ⟨.row page.nodes "", layout.toList.map .layout, session⟩
      ⟨.answer ((composer.renderInLayout page layout session).1.map .str), [],
        (composer.renderInLayout page layout session).2⟩ := by
  unfold renderInLayout
  rw [Work.bind_apply, ← levels]
  rcases bodyRun : composer.renderNodes (composer.levelsBelow session.scope) page.nodes session with
    ⟨body, between⟩
  obtain ⟨leads, sameScope⟩ := composer.renderNodes_leads page.nodes (layout.toList.map .layout) bodyRun
  cases layout with
  | none =>
      cases body with
      | error fault => exact leads
      | ok text => exact leads
  | some layout =>
      cases body with
      | error fault => exact leads.tail rfl
      | ok text =>
          let dressed : Session :=
            { between with scope := between.scope.extend [(.str bodyName, .str text)] "layout-body" }
          have taken : composer.step ⟨.answer (.ok (.str text)), [.layout layout], between⟩ =
              some ⟨.row layout.nodes "", [], dressed⟩ := rfl
          have sameLevels : composer.levelsBelow dressed.scope = composer.levelsBelow session.scope := by
            show composer.levelsBelow between.scope = _
            rw [sameScope]
          rcases layoutRun :
            composer.renderNodes (composer.levelsBelow dressed.scope) layout.nodes dressed with ⟨whole, after⟩
          have behind := composer.renderNodes_leads layout.nodes [] layoutRun
          rw [sameLevels] at layoutRun
          have rest : (bindRest [(.str bodyName, .str text)] "layout-body" >>= fun _ =>
              composer.renderNodes (composer.levelsBelow session.scope) layout.nodes) between =
                (whole, after) := layoutRun
          dsimp only
          rw [rest]
          exact (leads.tail taken).trans behind.1

/-- The course of a page ends with what its render gives. -/
theorem startOf_leads (composer : Composer) (page : Page) (arguments : Entries) (cache : Cache) :
    ∃ after, composer.Leads (composer.startOf page arguments cache)
        ⟨.answer ((composer.renderPage page arguments cache).1.map .str), [], after⟩ ∧
      after.cache = (composer.renderPage page arguments cache).2 := by
  unfold startOf renderPage
  rw [Work.bind_apply]
  rcases composer.library.findLayout page composer.settings.layoutName cache with ⟨found, cache'⟩
  cases found with
  | error fault => exact ⟨⟨.empty, cache'⟩, .refl, rfl⟩
  | ok layout =>
      let session : Session := ⟨composer.pageScope page layout arguments, cache'⟩
      have levels : composer.levelsBelow session.scope = composer.levelsBelow .empty :=
        composer.levelsBelow_pageScope page layout arguments
      exact ⟨_, composer.renderInLayout_leads page layout levels, rfl⟩

/-- The course of a text ends with what its render gives. -/
theorem startOfText_leads (composer : Composer) (text : String) (arguments : Entries) (cache : Cache) :
    ∃ after, composer.Leads (composer.startOfText text arguments cache)
        ⟨.answer ((composer.renderText text arguments cache).1.map .str), [], after⟩ ∧
      after.cache = (composer.renderText text arguments cache).2 := by
  unfold startOfText renderText
  rw [Work.bind_apply]
  cases parseTemplate text with
  | error fault => exact ⟨⟨.empty, cache⟩, .refl, rfl⟩
  | ok nodes =>
      let session : Session := ⟨composer.textScope arguments, cache⟩
      have run : composer.renderNodes (composer.levelsBelow session.scope) nodes session = (_, _) := rfl
      exact ⟨_, (composer.renderNodes_leads nodes [] run).1, rfl⟩

end Composer

/-- What has come of a render at a point where nothing is left to do: a text or a fault. -/
def Course.Point.outcome? : Point → Option (Except Fault String)
  | ⟨.answer (.ok (.str text)), [], _⟩ => some (.ok text)
  | ⟨.answer (.error fault), [], _⟩ => some (.error fault)
  | _ => none

end Folio
