import Folio.Proofs.Render.Termination

/-!
Contract: how a failure comes out of a render.

Owns: the filter call that is innermost where a fault comes up, and what the fault is on its way out of all
that waits; that a child is open only inside a call; which part of a row, a pipeline or a repetition fails
first; and the law that a render ends with the first fault on its course, reported under a filter's name at
most once.

Does not own: which single operations fail.
-/

namespace Folio

open Folio.Template

namespace Course

/-! ## The innermost call -/

/-- The filter whose call is the innermost that waits. -/
def innermostCall : List Pending → Option String
  | [] => none
  | .call name :: _ => some name
  | _ :: pending => innermostCall pending

/-- What a fault is, once it has come out of all that waits. -/
def surfaced (pending : List Pending) (fault : Fault) : Fault :=
  match innermostCall pending with
  | some name => Composer.blame name fault
  | none => fault

theorem surfaced_templateFault (pending : List Pending) {fault : Fault}
    (isTemplateFault : fault.isTemplateFault = true) : surfaced pending fault = fault := by
  unfold surfaced
  cases innermostCall pending with
  | some name => exact Composer.blame_templateFault name isTemplateFault
  | none => rfl

/-- What a call has been blamed for is an error of a template, so no other call is blamed for it. -/
theorem surfaced_blame (pending : List Pending) (name : String) (fault : Fault) :
    surfaced pending (Composer.blame name fault) = Composer.blame name fault := by
  refine surfaced_templateFault pending ?_
  cases fault with
  | _ => rfl

theorem surfaced_cons (frame : Pending) (pending : List Pending) (fault : Fault) :
    surfaced (frame :: pending) fault = surfaced pending (frame.fault fault) := by
  cases frame with
  | call name => exact (surfaced_blame pending name fault).symm
  | _ => rfl

/-! ## Points that fail -/

/-- The fault that a point answers with. -/
def Point.fault? (point : Point) : Option Fault :=
  match point.task with
  | .answer (.error fault) => some fault
  | _ => none

theorem Point.eq_of_fault? {point : Point} {fault : Fault} (fails : point.fault? = some fault) :
    point = ⟨.answer (.error fault), point.pending, point.session⟩ := by
  obtain ⟨task, pending, session⟩ := point
  cases task with
  | answer result =>
      cases result with
      | error other =>
          cases fails
          rfl
      | ok value => cases fails
  | _ => cases fails

end Course

namespace Composer

open Course

variable {composer : Composer} {start point next last : Point}

theorem step_error (composer : Composer) (fault : Fault) (frame : Pending) (pending : List Pending)
    (session : Session) :
    composer.step ⟨.answer (.error fault), frame :: pending, session⟩ =
      some ⟨.answer (.error (frame.fault fault)), pending,
        { session with scope := frame.scope (.error fault) session.scope }⟩ := rfl

/-- A fault comes out of all that waits, one frame after the other. -/
theorem unwinds (composer : Composer) (fault : Fault) (pending : List Pending) (session : Session) :
    ∃ after, composer.Leads ⟨.answer (.error fault), pending, session⟩
      ⟨.answer (.error (surfaced pending fault)), [], after⟩ := by
  -- The fault changes on its way, so it is generalized over: the frame hands on its own reading of it.
  induction pending generalizing fault session with
  | nil => exact ⟨session, .refl⟩
  | cons frame pending inductionHypothesis =>
      obtain ⟨after, leads⟩ := inductionHypothesis (frame.fault fault)
        { session with scope := frame.scope (.error fault) session.scope }
      rw [← surfaced_cons] at leads
      exact ⟨after, .head (composer.step_error fault frame pending session) leads⟩

/-- A point that fails goes on with points that fail. -/
theorem fails_next (stepped : composer.step point = some next) (fails : point.fault?.isSome = true) :
    next.fault?.isSome = true := by
  obtain ⟨fault, isFault⟩ := Option.isSome_iff_exists.1 fails
  rw [Point.eq_of_fault? isFault] at stepped
  cases isPending : point.pending with
  | nil =>
      rw [isPending] at stepped
      cases stepped
  | cons frame pending =>
      rw [isPending, step_error] at stepped
      cases stepped
      rfl

theorem Leads.fails (leads : composer.Leads point next) (fails : point.fault?.isSome = true) :
    next.fault?.isSome = true := by
  induction leads with
  | refl => exact fails
  | tail _ stepped inductionHypothesis => exact fails_next stepped inductionHypothesis

/-- A course that comes to a failing point starts with one or has a last point that does not fail. -/
theorem Leads.firstFailure (leads : composer.Leads start last) (fails : last.fault?.isSome = true) :
    start.fault?.isSome = true ∨
      ∃ point next, composer.Leads start point ∧ point.fault? = none ∧
        composer.step point = some next ∧ next.fault?.isSome = true := by
  induction leads with
  | refl => exact .inl fails
  | @tail point next before stepped inductionHypothesis =>
      cases isFault : point.fault? with
      | some fault => exact inductionHypothesis (by rw [isFault]; rfl)
      | none => exact .inr ⟨point, next, before, isFault, stepped, fails⟩

end Composer

/-! ## Children and calls -/

namespace Course

/-- The tasks of a call, from its action to its rounds. -/
def Task.isInCall : Task → Bool
  | .act .. => true
  | .includePage .. => true
  | .repeatTemplate .. => true
  | .begin .. => true
  | .rounds .. => true
  | _ => false

/-- What wants room stands inside a call. -/
def AreCalled : List Pending → Prop
  | [] => True
  | frame :: pending => (frame.wantsRoom = true → (innermostCall pending).isSome = true) ∧ AreCalled pending

/-- The tasks of a call, open children and rounds that wait, all of them stand inside a call. -/
structure Point.IsCalled (point : Point) : Prop where
  task : point.task.isInCall = true → (innermostCall point.pending).isSome = true
  pending : AreCalled point.pending

variable {own pending : List Pending}

/-- A task outside of calls needs only that what waits stands inside them. -/
theorem Point.IsCalled.of_outside {task : Task} {session : Session}
    (outside : task.isInCall = false) (called : AreCalled pending) :
    Point.IsCalled ⟨task, pending, session⟩ where
  task := by
    intro isInCall
    rw [outside] at isInCall
    cases isInCall
  pending := called

theorem AreCalled.append (called : AreCalled pending) (light : ∀ frame ∈ own, frame.wantsRoom = false) :
    AreCalled (own ++ pending) := by
  induction own with
  | nil => exact called
  | cons frame own inductionHypothesis =>
      have isLight := light frame List.mem_cons_self
      constructor
      · intro wants
        rw [isLight] at wants
        cases wants
      · exact inductionHypothesis fun other member => light other (List.mem_cons_of_mem frame member)

theorem innermostCall_append (own pending : List Pending) :
    innermostCall (own ++ pending) = (innermostCall own).or (innermostCall pending) := by
  induction own with
  | nil => rfl
  | cons frame own inductionHypothesis =>
      cases frame with
      | call name => rfl
      | _ => exact inductionHypothesis

/-- Where a child is open there is a call that it stands in. -/
theorem AreCalled.innermostCall (called : AreCalled pending) (isOpen : 0 < openChildren pending) :
    ∃ name, innermostCall pending = some name := by
  induction pending with
  | nil => cases isOpen
  | cons frame pending inductionHypothesis =>
      cases frame with
      | call name => exact ⟨name, rfl⟩
      | child opened => exact Option.isSome_iff_exists.1 (called.1 rfl)
      | _ => exact inductionHypothesis called.2 isOpen

theorem Task.after_outside {α : Type} {result : Except Mishap α} {next : α → Task}
    (outside : ∀ found, (next found).isInCall = false) : (Task.after result next).isInCall = false := by
  cases result with
  | error cause => rfl
  | ok found => exact outside found

/-- Only a round goes on inside the call that it stands in. -/
theorem Pending.task_inCall {frame : Pending} {value : Value}
    (isInCall : (frame.task value).isInCall = true) : frame.wantsRoom = true := by
  cases frame with
  | round => rfl
  | key segments before =>
      have outside : (Pending.task (.key segments before) value).isInCall = false :=
        Task.after_outside fun _ => rfl
      rw [outside] at isInCall
      cases isInCall
  | node nodes before =>
      have outside : (Pending.task (.node nodes before) value).isInCall = false :=
        Task.after_outside fun _ => rfl
      rw [outside] at isInCall
      cases isInCall
  | _ => cases isInCall

/-- An action starts where its call has begun to wait. -/
theorem expand_inCall (composer : Composer) (scope : Scope) (task : Task) :
    (composer.expand scope task).1.isInCall = true →
      task.isInCall = true ∨ (innermostCall (composer.expand scope task).2).isSome = true := by
  unfold Composer.expand
  -- A task that is taken apart stays outside, starts a call, or was a part of one before.
  repeat' split
  all_goals
    intro isInCall
    first
      | exact .inl rfl
      | exact .inr rfl
      | exact .inl isInCall

end Course

namespace Composer

open Course

variable {composer : Composer} {start point next last : Point}

theorem IsCalled.expand {task : Task} {pending : List Pending} {session : Session}
    (called : Point.IsCalled ⟨task, pending, session⟩) :
    Point.IsCalled ⟨(composer.expand session.scope task).1,
      (composer.expand session.scope task).2 ++ pending, session⟩ where
  task := by
    intro isInCall
    rw [innermostCall_append]
    rcases expand_inCall composer session.scope task isInCall with wasInCall | begins
    · rw [Option.isSome_or, called.task wasInCall, Bool.or_true]
    · rw [Option.isSome_or, begins, Bool.true_or]
  pending := called.pending.append (expand_light composer session.scope task).1

/-- A step keeps children inside calls. -/
theorem called_next (stepped : composer.step point = some next) (called : point.IsCalled) :
    next.IsCalled := by
  obtain ⟨task, pending, session⟩ := point
  cases task with
  | answer result =>
      cases pending with
      | nil => cases stepped
      | cons frame pending =>
          cases stepped
          obtain ⟨inCall, below⟩ := called.pending
          cases result with
          | error fault => exact .of_outside rfl below
          | ok value => exact ⟨fun isInCall => inCall (Pending.task_inCall isInCall), below⟩
  | includePage name arguments =>
      simp only [step] at stepped
      split at stepped
      · split at stepped
        · cases stepped
          exact .of_outside rfl called.pending
        · cases stepped
          exact .of_outside rfl ⟨fun _ => called.task rfl, called.pending⟩
      · cases stepped
        exact .of_outside rfl called.pending
  | begin binding template values =>
      simp only [step] at stepped
      split at stepped
      · split at stepped
        · cases stepped
          exact .of_outside rfl called.pending
        · cases stepped
          exact ⟨fun _ => called.task rfl, called.pending⟩
      · cases stepped
        exact .of_outside rfl called.pending
  | rounds binding nodes values before =>
      cases values with
      | nil =>
          cases stepped
          exact .of_outside rfl called.pending
      | cons value values =>
          cases stepped
          exact .of_outside rfl ⟨fun _ => called.task rfl, fun _ => called.task rfl, called.pending⟩
  | _ =>
      cases stepped
      exact IsCalled.expand called

theorem Leads.called (leads : composer.Leads point next) (called : point.IsCalled) : next.IsCalled := by
  induction leads with
  | refl => exact called
  | tail _ stepped inductionHypothesis => exact called_next stepped inductionHypothesis

/-! ## What fails first -/

/-- The order in which parts are evaluated, told by what fails. A row of nodes fails with its first node that
fails; a pipeline with its root, or else with the first of its stages that fails, which fails with the first
of its arguments that does, or else with its call; a call that is let through with what its action fails with,
under the name of the filter if it must be; and a repetition with its first round that fails. What stands
before has succeeded, and what stands behind does not matter. -/
structure FailsInOrder (composer : Composer) (below : Below) : Prop where
  nodes : ∀ nodes session fault, (composer.renderRow below nodes session).1 = .error fault ↔
    ∃ front node back text between, nodes = front ++ node :: back ∧
      composer.renderRow below front session = (.ok text, between) ∧
      (composer.renderNode below node between).1 = .error fault
  pipeline : ∀ pipeline session fault,
    (evaluatePipeline (composer.call below) pipeline session).1 = .error fault ↔
      (evaluate (composer.call below) pipeline.root session).1 = .error fault ∨
        ∃ value between, evaluate (composer.call below) pipeline.root session = (.ok value, between) ∧
          (runStages (composer.call below) pipeline.stages value between).1 = .error fault
  stages : ∀ stages value session fault,
    (runStages (composer.call below) stages value session).1 = .error fault ↔
      ∃ front stage back found between, stages = front ++ stage :: back ∧
        runStages (composer.call below) front value session = (.ok found, between) ∧
        ((evaluateItems (composer.call below) stage.arguments between).1 = .error fault ∨
          ∃ arguments after,
            evaluateItems (composer.call below) stage.arguments between = (.ok arguments, after) ∧
            (composer.call below stage.name found arguments after).1 = .error fault)
  arguments : ∀ items session fault,
    (evaluateItems (composer.call below) items session).1 = .error fault ↔
      ∃ front item back values between, items = front ++ item :: back ∧
        evaluateItems (composer.call below) front session = (.ok values, between) ∧
        (evaluate (composer.call below) item between).1 = .error fault
  call : ∀ name spec value arguments session fault, composer.registry.find? name = some spec →
    spec.arity.accepts arguments.length = true →
      ((composer.call below name value arguments session).1 = .error fault ↔
        ∃ cause, (composer.act below spec.action value arguments session).1 = .error cause ∧
          fault = blame name cause)
  rounds : ∀ render binding nodes values session fault,
    (renderEach render binding nodes values session).1 = .error fault ↔
      ∃ front value back text between, values = front ++ value :: back ∧
        renderEach render binding nodes front session = (.ok text, between) ∧
        (Render.inChild [(.str binding, value)] (repeatLabel binding) (render nodes) between).1 =
          .error fault

theorem runStages_eq_error {call : FilterCall} {stages : List Stage} {value : Value} {session : Session}
    {fault : Fault} :
    (runStages call stages value session).1 = .error fault ↔
      ∃ front stage back found between, stages = front ++ stage :: back ∧
        runStages call front value session = (.ok found, between) ∧
        ((evaluateItems call stage.arguments between).1 = .error fault ∨
          ∃ arguments after, evaluateItems call stage.arguments between = (.ok arguments, after) ∧
            (call stage.name found arguments after).1 = .error fault) := by
  -- A stage is two pieces of work, its arguments and its call, so it is no row of single pieces.
  induction stages generalizing value session with
  | nil =>
      rw [runStages]
      constructor
      · intro failed
        cases failed
      · rintro ⟨front, stage, back, found, between, isRow, -⟩
        cases front <;> cases isRow
  | cons stage stages inductionHypothesis =>
      obtain ⟨name, arguments, line, column⟩ := stage
      rw [runStages, Work.bind_eq_error]
      constructor
      · rintro (failed | ⟨values, between, succeeded, failed⟩)
        · exact ⟨[], _, stages, value, session, rfl, by rw [runStages]; rfl, .inl failed⟩
        · rcases Work.bind_eq_error.1 failed with failed | ⟨next, after, called, failed⟩
          · exact ⟨[], _, stages, value, session, rfl, by rw [runStages]; rfl,
              .inr ⟨values, between, succeeded, failed⟩⟩
          · obtain ⟨front, later, back, found, after', rfl, frontSucceeded, failed⟩ :=
              inductionHypothesis.1 failed
            refine ⟨_ :: front, later, back, found, after', rfl, ?_, failed⟩
            rw [runStages]
            exact Work.bind_eq_ok_at.2 ⟨values, between, succeeded,
              Work.bind_eq_ok_at.2 ⟨next, after, called, frontSucceeded⟩⟩
      · rintro ⟨front, failing, back, found, between, isRow, frontSucceeded, failed⟩
        cases front with
        | nil =>
            cases isRow
            rw [runStages] at frontSucceeded
            cases frontSucceeded
            rcases failed with failed | ⟨values, after, succeeded, failed⟩
            · exact .inl failed
            · exact .inr ⟨values, after, succeeded, Work.bind_eq_error.2 (.inl failed)⟩
        | cons first front =>
            cases isRow
            rw [runStages] at frontSucceeded
            obtain ⟨values, between', succeeded, frontSucceeded⟩ :=
              Work.bind_eq_ok_at.1 frontSucceeded
            obtain ⟨next, after, called, frontSucceeded⟩ := Work.bind_eq_ok_at.1 frontSucceeded
            refine .inr ⟨values, between', succeeded,
              Work.bind_eq_error.2 (.inr ⟨next, after, called, ?_⟩)⟩
            exact inductionHypothesis.2
              ⟨front, failing, back, found, between, rfl, frontSucceeded, failed⟩

theorem call_eq_error {below : Below} {name : String} {spec : FilterSpec} {value : Value}
    {arguments : List Value} {session : Session} {fault : Fault}
    (found : composer.registry.find? name = some spec)
    (accepted : spec.arity.accepts arguments.length = true) :
    (composer.call below name value arguments session).1 = .error fault ↔
      ∃ cause, (composer.act below spec.action value arguments session).1 = .error cause ∧
        fault = blame name cause := by
  unfold call
  rw [found]
  dsimp only
  rw [if_pos accepted, Work.rename_apply]
  rcases composer.act below spec.action value arguments session with ⟨outcome, after⟩
  cases outcome with
  | ok result =>
      constructor
      · intro failed
        cases failed
      · rintro ⟨cause, failed, -⟩
        cases failed
  | error cause =>
      constructor
      · intro failed
        cases failed
        exact ⟨cause, rfl, rfl⟩
      · rintro ⟨cause', failed, rfl⟩
        cases failed
        rfl

theorem failsInOrder (composer : Composer) (below : Below) : composer.FailsInOrder below where
  nodes nodes session fault := by
    refine Work.row_eq_error "" (· ++ ·) ?_ ?_
    · rfl
    · exact fun _ _ => rfl
  pipeline pipeline session fault := Work.bind_eq_error
  stages stages value session fault := runStages_eq_error
  arguments items session fault := by
    refine Work.row_eq_error [] (· :: ·) ?_ ?_
    · rw [evaluateItems]
    · intro first rest
      rw [evaluateItems]
  call name spec value arguments session fault found accepted := call_eq_error found accepted
  rounds render binding nodes values session fault := by
    refine Work.row_eq_error "" (· ++ ·) ?_ ?_
    · rfl
    · exact fun _ _ => rfl

/-! ## What a render ends with -/

/-- How the failures on a course come out as its result. -/
structure Surfaces (composer : Composer) (start : Point) (result : Except Fault String) : Prop where
  /-- An error of a template comes out as it is, however many calls and children it is in. -/
  template : ∀ fault pending session, composer.Leads start ⟨.answer (.error fault), pending, session⟩ →
    fault.isTemplateFault = true → result = .error fault
  /-- Any other failure inside a call is reported as one of the innermost filter, in its own words or by its
  kind, and of no other filter. -/
  called : ∀ cause pending session name,
    composer.Leads start ⟨.answer (.error (.mishap cause)), pending, session⟩ →
      innermostCall pending = some name →
        result =
          .error (.filterFailed name (if cause.message == "" then cause.kindName else cause.message))
  /-- Inside a child there is such a call. -/
  nested : ∀ point, composer.Leads start point → 0 < openChildren point.pending →
    ∃ name, innermostCall point.pending = some name
  /-- Outside of all calls a failure comes out as it is. -/
  outside : ∀ cause pending session,
    composer.Leads start ⟨.answer (.error (.mishap cause)), pending, session⟩ →
      innermostCall pending = none → result = .error (.mishap cause)
  /-- A result that is an error is the one that has come up first: there was nothing to render, or it came up
  in one step from a point up to which nothing had failed. -/
  first : ∀ fault, result = .error fault → start.fault? = some fault ∨
    ∃ point raised pending session, composer.Leads start point ∧
      (∀ earlier, composer.Leads start earlier → composer.Leads earlier point → earlier.fault? = none) ∧
      composer.step point = some ⟨.answer (.error raised), pending, session⟩ ∧
      fault = surfaced pending raised

/-- Wherever a fault comes up on a course, it is what the course ends with, as it is behind all that waits. -/
theorem Leads.result_eq {result : Except Fault String} {after session : Session}
    (ends : composer.Leads start ⟨.answer (result.map .str), [], after⟩) {fault : Fault}
    {pending : List Pending}
    (reached : composer.Leads start ⟨.answer (.error fault), pending, session⟩) :
    result = .error (surfaced pending fault) := by
  obtain ⟨after', unwound⟩ := composer.unwinds fault pending session
  have ended : composer.step ⟨.answer (.error (surfaced pending fault)), [], after'⟩ = none := rfl
  have reaches : composer.Leads start _ := Relation.ReflTransGen.trans reached unwound
  -- The course has one end only, and both answers stand there.
  rcases (reaches.goesOn ended ends).cases_head with same | ⟨next, stepped, -⟩
  · cases result with
    | error other =>
        cases same
        rfl
    | ok text => cases same
  · cases stepped

theorem surfaces_of_leads {result : Except Fault String} {after : Session}
    (ends : composer.Leads start ⟨.answer (result.map .str), [], after⟩) (called : start.IsCalled)
    (bare : start.fault?.isSome = true → start.pending = []) : composer.Surfaces start result where
  template fault pending session reached isTemplateFault := by
    rw [ends.result_eq reached, surfaced_templateFault pending isTemplateFault]
  called cause pending session name reached isInnermost := by
    rw [ends.result_eq reached, surfaced, isInnermost]
    rfl
  nested point reached isOpen := (reached.called called).pending.innermostCall isOpen
  outside cause pending session reached noCall := by
    rw [ends.result_eq reached, surfaced, noCall]
  first := by
    rintro fault rfl
    rcases ends.firstFailure rfl with startFails | ⟨point, next, reached, fine, stepped, fails⟩
    · obtain ⟨raised, isRaised⟩ := Option.isSome_iff_exists.1 startFails
      have isStart := Point.eq_of_fault? isRaised
      have reached : composer.Leads start ⟨.answer (.error raised), start.pending, start.session⟩ := by
        rw [← isStart]
        exact .refl
      have isFault := ends.result_eq reached
      rw [bare startFails] at isFault
      cases isFault
      exact .inl isRaised
    · obtain ⟨raised, isRaised⟩ := Option.isSome_iff_exists.1 fails
      rw [Point.eq_of_fault? isRaised] at stepped
      have isFault := ends.result_eq (reached.tail stepped)
      refine .inr ⟨point, raised, next.pending, next.session, reached, ?_, stepped, ?_⟩
      · -- Had something failed earlier, this point would fail too.
        intro earlier _ leads
        cases isEarlier : earlier.fault? with
        | none => rfl
        | some found =>
            have failsToo := leads.fails (by rw [isEarlier]; rfl)
            rw [fine] at failsToo
            cases failsToo
      · exact Except.error.inj isFault

/-- A failure in a page that is included is reported once, under the filter that failed there. -/
example :
    let composer : Composer :=
      ⟨.default, ⟨.memory [("p.html", "\x7b\x7b 'x' | forEach(5) \x7d\x7d")], ".html"⟩, .standard⟩;
    (composer.renderText "a\x7b\x7b 'p' | partial \x7d\x7d" [] .empty).1 =
      .error (.filterFailed "forEach" "forEach expects a collection, got int") := by
  decide +kernel

end Composer

end Folio
