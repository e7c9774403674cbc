import Folio.Render.Compose
import Mathlib.Logic.Relation

/-!
Contract: the course of a render, one small step after the other.

Owns: the tasks of a render and what waits for their answers; one step, which knows of no levels but looks at
the nesting of the scope where a child is wanted; the courses that steps make; and how deep children are
nested at every point of a course.

Does not own: where a course ends.
-/

namespace Folio

open Folio.Template

namespace Course

/-! ## Points -/

/-- What the values of a row of expressions are wanted for. -/
inductive Purpose where
  | array
  | call (name : String) (value : Value)

/-- What is to be done next. The text that stands before the rest of a row is carried along. -/
inductive Task where
  | row (nodes : List Node) (before : String)
  | evaluate (expr : Expr)
  | follow (segments : List Segment) (value : Value)
  | gather (purpose : Purpose) (gathered : List Value) (items : List Expr)
  | put (entries : List (String × Expr)) (before : Entries)
  | run (stages : List Stage) (value : Value)
  | call (name : String) (value : Value) (arguments : List Value)
  | act (action : FilterAction) (value : Value) (arguments : List Value)
  | includePage (name : String) (arguments : Entries)
  | repeatTemplate (template : String) (collection : Value) (binding : Option String)
  | begin (binding template : String) (values : List Value)
  | rounds (binding : String) (nodes : List Node) (values : List Value) (before : String)
  | answer (result : Except Fault Value)

/-- What waits for an answer. -/
inductive Pending where
  | key (segments : List Segment) (value : Value)
  | item (purpose : Purpose) (gathered : List Value) (items : List Expr)
  | entry (name : String) (entries : List (String × Expr)) (before : Entries)
  | stages (later : List Stage)
  | call (name : String)
  | node (nodes : List Node) (before : String)
  | child (opened : Scope.Child)
  | round (binding : String) (nodes : List Node) (values : List Value) (before : String)
  | layout (page : Page)

/-- A task, what waits for its answer, innermost first, and the session. -/
structure Point where
  task : Task
  pending : List Pending
  session : Session

/-- Goes on with a result, or answers with the mishap that there is instead. -/
def Task.after {α : Type} (result : Except Mishap α) (next : α → Task) : Task :=
  match result with
  | .ok found => next found
  | .error cause => .answer (.error (.mishap cause))

/-- Whether a task leaves the session alone and needs no look at the nesting. -/
def Task.isQuiet : Task → Bool
  | .includePage .. => false
  | .begin .. => false
  | .rounds .. => false
  | .answer _ => false
  | _ => true

/-! ## Steps -/

/-- The task of a point, in a child of its scope. -/
def Point.inChild (point : Point) (bindings : Entries) (label : String) : Point :=
  let (opened, scope) := point.session.scope.enter bindings label
  ⟨point.task, .child opened :: point.pending, { point.session with scope := scope }⟩

/-- Goes on with the value that was waited for. -/
def Pending.task : Pending → Value → Task
  | .key segments value, found => .after (value.property found) (.follow segments)
  | .item purpose gathered items, value => .gather purpose (gathered ++ [value]) items
  | .entry name entries before, value => .put entries (Entries.put before (.str name) value)
  | .stages later, value => .run later value
  | .node nodes before, value => .after value.text fun text => .row nodes (before ++ text)
  | .round binding nodes values before, value =>
      .after value.text fun text => .rounds binding nodes values (before ++ text)
  | .layout page, _ => .row page.nodes ""
  | .call _, value => .answer (.ok value)
  | .child _, value => .answer (.ok value)

/-- What is made of a fault where a value was waited for. -/
def Pending.fault : Pending → Fault → Fault
  | .call name, fault => Composer.blame name fault
  | _, fault => fault

/-- What becomes of the scope when an answer comes: a child is left with either, and the layout sees the text
of the page. -/
def Pending.scope : Pending → Except Fault Value → Scope → Scope
  | .child opened, _, scope => scope.leave opened
  | .layout _, .ok value, scope => scope.extend [(.str Composer.bodyName, value)] "layout-body"
  | _, _, scope => scope

/-- A frame that hands faults on as they are and leaves the scope alone. -/
def Pending.isOrdinary : Pending → Bool
  | .call _ => false
  | .child _ => false
  | .layout _ => false
  | _ => true

def Pending.resume (frame : Pending) (result : Except Fault Value) (pending : List Pending)
    (session : Session) : Point :=
  let task := match result with
    | .ok value => frame.task value
    | .error fault => .answer (.error (frame.fault fault))
  ⟨task, pending, { session with scope := frame.scope result session.scope }⟩

namespace Pending

variable {frame : Pending} (isOrdinary : frame.isOrdinary = true) (pending : List Pending)
  (session : Session)

include isOrdinary

theorem resume_ok (value : Value) :
    frame.resume (.ok value) pending session = ⟨frame.task value, pending, session⟩ := by
  cases frame with
  | call | child | layout => cases isOrdinary
  | _ => rfl

theorem resume_error (fault : Fault) :
    frame.resume (.error fault) pending session = ⟨.answer (.error fault), pending, session⟩ := by
  cases frame with
  | call | child | layout => cases isOrdinary
  | _ => rfl

end Pending

end Course

namespace Composer

open Course

/-- Whether another child may be opened. -/
def hasRoom (composer : Composer) (scope : Scope) : Bool :=
  scope.nesting < composer.settings.maxDepth

/-- What a task comes to that leaves the session alone: another task and what waits for its answer. -/
def expand (composer : Composer) (scope : Scope) : Task → Task × List Pending
  | .row [] before => (.answer (.ok (.str before)), [])
  | .row (.literal text :: nodes) before => (.row nodes (before ++ text), [])
  | .row (.expression pipeline _ _ _ :: nodes) before =>
      (.evaluate (.pipeline pipeline.root pipeline.stages), [.node nodes before])
  | .evaluate (.literal literal) => (.answer (.ok literal.toValue), [])
  | .evaluate (.path head segments) =>
      match scope.resolve head with
      | none => (.answer (.ok .null), [])
      | some value => (.follow segments value, [])
  | .evaluate (.array items) => (.gather .array [] items, [])
  | .evaluate (.object entries) => (.put entries [], [])
  | .evaluate (.pipeline root stages) => (.evaluate root, [.stages stages])
  | .follow [] value => (.answer (.ok value), [])
  | .follow (_ :: _) .null => (.answer (.ok .null), [])
  | .follow (.property name :: segments) value => (.answer (.ok (.str name)), [.key segments value])
  | .follow (.index key :: segments) value => (.evaluate key, [.key segments value])
  | .gather .array gathered [] => (.answer (.ok (.list gathered)), [])
  | .gather (.call name value) gathered [] => (.call name value gathered, [])
  | .gather purpose gathered (item :: items) => (.evaluate item, [.item purpose gathered items])
  | .put [] before => (.answer (.ok (.map before)), [])
  | .put ((name, expr) :: entries) before => (.evaluate expr, [.entry name entries before])
  | .run [] value => (.answer (.ok value), [])
  | .run (.mk name arguments _ _ :: stages) value =>
      (.gather (.call name value) [] arguments, [.stages stages])
  | .call name value arguments =>
      match composer.registry.find? name with
      | none => (.answer (.error (.unknownFilter name)), [])
      | some spec =>
          if spec.arity.accepts arguments.length then (.act spec.action value arguments, [.call name])
          else
            (.answer (.error (.wrongArity name arguments.length spec.arity.least spec.arity.most)), [])
  | .act (.plain run) value arguments => (.answer (run value arguments), [])
  | .act (.observing run) value arguments => (.answer (run scope value arguments), [])
  | .act .includePage value arguments =>
      (.after (includeArguments value arguments) fun (name, entries) => .includePage name entries, [])
  | .act .repeatTemplate value arguments =>
      (.after (repeatArguments value arguments) fun (template, collection, binding) =>
        .repeatTemplate template collection binding, [])
  | .repeatTemplate template collection binding =>
      match collection with
      | .null => (.answer (.ok (.str "")), [])
      | collection =>
          match collection.members? with
          | none => (.answer (.error (.mishap (.notRepeatable collection.kindName))), [])
          | some values => (.begin (boundName composer.settings.defaultBinding binding) template values, [])
  | task => (task, [])

/-- One step. There is none behind an answer that nothing waits for. -/
def step (composer : Composer) : Point → Option Point
  | ⟨.answer _, [], _⟩ => none
  | ⟨.answer result, frame :: pending, session⟩ => some (frame.resume result pending session)
  | ⟨.includePage name arguments, pending, session⟩ =>
      if composer.hasRoom session.scope then
        match composer.library.getPage name Library.partialKind session.cache with
        | (.error fault, cache) => some ⟨.answer (.error fault), pending, { session with cache := cache }⟩
        | (.ok page, cache) =>
            some (Point.inChild ⟨.row page.nodes "", pending, { session with cache := cache }⟩
              (Entries.overlay page.arguments arguments) ("partial:" ++ page.id))
      else some ⟨.answer (.error (.tooDeep composer.settings.maxDepth name)), pending, session⟩
  | ⟨.begin binding template values, pending, session⟩ =>
      if composer.hasRoom session.scope then
        match inlineNodes template session.cache with
        | (.error fault, cache) => some ⟨.answer (.error fault), pending, { session with cache := cache }⟩
        | (.ok nodes, cache) =>
            some ⟨.rounds binding nodes values "", pending, { session with cache := cache }⟩
      else
        some ⟨.answer (.error (.tooDeep composer.settings.maxDepth (repeatLabel binding))), pending, session⟩
  | ⟨.rounds _ _ [] before, pending, session⟩ => some ⟨.answer (.ok (.str before)), pending, session⟩
  | ⟨.rounds binding nodes (value :: values) before, pending, session⟩ =>
      some (Point.inChild ⟨.row nodes "", .round binding nodes values before :: pending, session⟩
        [(.str binding, value)] (repeatLabel binding))
  | ⟨task, pending, session⟩ =>
      let (next, own) := composer.expand session.scope task
      some ⟨next, own ++ pending, session⟩

theorem step_quiet (composer : Composer) {task : Task} (isQuiet : task.isQuiet = true)
    (pending : List Pending) (session : Session) :
    composer.step ⟨task, pending, session⟩ =
      some ⟨(composer.expand session.scope task).1, (composer.expand session.scope task).2 ++ pending,
        session⟩ := by
  cases task with
  | includePage | begin | rounds | answer => cases isQuiet
  | _ => rfl

/-- Steps lead from one point to another. -/
def Leads (composer : Composer) : Point → Point → Prop :=
  Relation.ReflTransGen fun point next => composer.step point = some next

/-- Steps are determined: where one course has ended, every other one from the same point goes to its end. -/
theorem Leads.goesOn {composer : Composer} {start point last : Point} (ends : composer.Leads start last)
    (ended : composer.step last = none) (leads : composer.Leads start point) :
    composer.Leads point last := by
  induction leads with
  | refl => exact ends
  | tail _ stepped inductionHypothesis =>
      rcases inductionHypothesis.cases_head with rfl | ⟨next, steppedToo, rest⟩
      · rw [ended] at stepped
        cases stepped
      · rw [stepped] at steppedToo
        cases steppedToo
        exact rest

/-- Where the render of a page starts, once its layout has been looked for: with the body of the page, for
which the layout waits. -/
def startOf (composer : Composer) (page : Page) (arguments : Entries) (cache : Cache) : Point :=
  match composer.library.findLayout page composer.settings.layoutName cache with
  | (.ok layout, cache) =>
      ⟨.row page.nodes "", layout.toList.map .layout, ⟨composer.pageScope page layout arguments, cache⟩⟩
  | (.error fault, cache) => ⟨.answer (.error fault), [], ⟨.empty, cache⟩⟩

/-- Where the render of a text starts, once the text has been read. -/
def startOfText (composer : Composer) (text : String) (arguments : Entries) (cache : Cache) : Point :=
  match parseTemplate text with
  | .ok nodes => ⟨.row nodes "", [], ⟨composer.textScope arguments, cache⟩⟩
  | .error fault => ⟨.answer (.error fault), [], ⟨.empty, cache⟩⟩

end Composer

/-! ## How deep children are nested -/

namespace Course

def Point.nesting (point : Point) : Nat :=
  point.session.scope.nesting

/-- The children that are open. -/
def openChildren : List Pending → Nat
  | [] => 0
  | .child _ :: pending => openChildren pending + 1
  | _ :: pending => openChildren pending

/-- Stands only where another child may be opened, or could be before this one was. -/
def Pending.wantsRoom : Pending → Bool
  | .child _ => true
  | .round .. => true
  | _ => false

def Task.wantsRoom : Task → Bool
  | .rounds .. => true
  | _ => false

/-- What wants room has it above the children that are open below. -/
def HaveRoom (limit : Int) : List Pending → Prop
  | [] => True
  | frame :: pending => (frame.wantsRoom = true → openChildren pending < limit) ∧ HaveRoom limit pending

/-- The nesting counts the open children, and none of them stands where there was no room for it. -/
structure Point.IsBounded (limit : Int) (point : Point) : Prop where
  counted : point.nesting = openChildren point.pending
  task : point.task.wantsRoom = true → openChildren point.pending < limit
  pending : HaveRoom limit point.pending

variable {limit : Int} {task next : Task} {pending own : List Pending} {session after : Session}
  {point : Point} {frame : Pending}

theorem openChildren_cons (light : frame.wantsRoom = false) (pending : List Pending) :
    openChildren (frame :: pending) = openChildren pending := by
  cases frame with
  | child opened => cases light
  | _ => rfl

theorem openChildren_append (light : ∀ frame ∈ own, frame.wantsRoom = false) (pending : List Pending) :
    openChildren (own ++ pending) = openChildren pending := by
  induction own with
  | nil => rfl
  | cons frame own inductionHypothesis =>
      rw [List.cons_append, openChildren_cons (light frame List.mem_cons_self)]
      exact inductionHypothesis fun other member => light other (List.mem_cons_of_mem frame member)

theorem HaveRoom.append (room : HaveRoom limit pending) (light : ∀ frame ∈ own, frame.wantsRoom = false) :
    HaveRoom limit (own ++ pending) := by
  induction own with
  | nil => exact room
  | cons frame own inductionHypothesis =>
      have isLight := light frame List.mem_cons_self
      constructor
      · intro wants
        rw [isLight] at wants
        cases wants
      · exact inductionHypothesis fun other member => light other (List.mem_cons_of_mem frame member)

/-- No more children are open than may be. -/
theorem HaveRoom.openChildren_le (room : HaveRoom limit pending) :
    (openChildren pending : Int) ≤ max limit 0 := by
  induction pending with
  | nil => exact Int.le_max_right limit 0
  | cons frame pending inductionHypothesis =>
      by_cases wants : frame.wantsRoom = true
      · have below := room.1 wants
        have counted : openChildren (frame :: pending) ≤ openChildren pending + 1 := by
          cases frame with
          | child opened => exact Nat.le_refl _
          | _ => exact Nat.le_succ _
        omega
      · rw [Bool.not_eq_true] at wants
        rw [openChildren_cons wants]
        exact inductionHypothesis room.2

/-- Goes on in the same children, with frames that want no room. -/
theorem Point.IsBounded.goOn (bounded : IsBounded limit ⟨task, pending, session⟩)
    (light : ∀ frame ∈ own, frame.wantsRoom = false)
    (wants : next.wantsRoom = true → openChildren pending < limit)
    (sameNesting : after.scope.nesting = session.scope.nesting) :
    IsBounded limit ⟨next, own ++ pending, after⟩ where
  counted := by
    have counted : session.scope.nesting = openChildren pending := bounded.counted
    show after.scope.nesting = openChildren (own ++ pending)
    rw [sameNesting, counted, openChildren_append light]
  task := by
    show next.wantsRoom = true → (openChildren (own ++ pending) : Int) < limit
    rw [openChildren_append light]
    exact wants
  pending := bounded.pending.append light

/-- Opens a child where there is room. -/
theorem Point.IsBounded.inChild (bounded : point.IsBounded limit)
    (room : (openChildren point.pending : Int) < limit) (light : point.task.wantsRoom = false)
    (bindings : Entries) (label : String) : (point.inChild bindings label).IsBounded limit where
  counted := by
    have counted := bounded.counted
    show point.session.scope.nesting + 1 = openChildren point.pending + 1
    exact congrArg (· + 1) counted
  task := by
    intro wants
    have isLight : (point.inChild bindings label).task.wantsRoom = false := light
    rw [isLight] at wants
    cases wants
  pending := ⟨fun _ => room, bounded.pending⟩

theorem Task.after_light {α : Type} {result : Except Mishap α} {next : α → Task}
    (light : ∀ found, (next found).wantsRoom = false) : (Task.after result next).wantsRoom = false := by
  cases result with
  | error cause => rfl
  | ok found => exact light found

/-- Only a repetition goes on with a task that wants room. -/
theorem Pending.task_light {value : Value} (isRound : (frame.task value).wantsRoom = true) :
    frame.wantsRoom = true := by
  cases frame with
  | round => rfl
  | key segments before =>
      have light : (Pending.task (.key segments before) value).wantsRoom = false :=
        Task.after_light fun _ => rfl
      rw [light] at isRound
      cases isRound
  | node nodes before =>
      have light : (Pending.task (.node nodes before) value).wantsRoom = false :=
        Task.after_light fun _ => rfl
      rw [light] at isRound
      cases isRound
  | _ => cases isRound

/-- An answer leaves the innermost child if it comes from there, and is taken up in the same children
otherwise. -/
theorem Point.IsBounded.resume {result : Except Fault Value}
    (bounded : IsBounded limit ⟨.answer result, frame :: pending, session⟩) :
    IsBounded limit (frame.resume result pending session) := by
  have counted : session.scope.nesting = openChildren (frame :: pending) := bounded.counted
  obtain ⟨room, roomBelow⟩ := bounded.pending
  refine ⟨?_, ?_, roomBelow⟩
  · show (frame.scope result session.scope).nesting = openChildren pending
    cases frame with
    | child opened =>
        show session.scope.nesting - 1 = openChildren pending
        rw [counted, openChildren, Nat.add_sub_cancel]
    | layout page => cases result <;> exact counted
    | _ => exact counted
  · cases result with
    | error fault => exact nofun
    | ok value => exact fun wants => room (Pending.task_light wants)

/-- What a task comes to wants no more room than the task. -/
theorem expand_light (composer : Composer) (scope : Scope) (task : Task) :
    (∀ frame ∈ (composer.expand scope task).2, frame.wantsRoom = false) ∧
      ((composer.expand scope task).1.wantsRoom = true → task.wantsRoom = true) := by
  unfold Composer.expand
  repeat' split
  all_goals
    refine ⟨by simp [Pending.wantsRoom], ?_⟩
    first
      | exact id
      | rw [Task.after_light fun _ => rfl]
        exact fun wants => absurd wants Bool.false_ne_true

/-! ## What a step can do -/

end Course

namespace Composer

open Course

/-- The kinds of steps. An answer is taken up; the render goes on in the same scope; or a child is opened, for
a page where there is room, or for the next round of a repetition. A repetition begins only where there is
room. -/
inductive Steps (composer : Composer) : Point → Point → Prop where
  | resumes (result : Except Fault Value) (frame : Pending) (pending : List Pending) (session : Session) :
      composer.Steps ⟨.answer result, frame :: pending, session⟩ (frame.resume result pending session)
  | goesOn (task next : Task) (own pending : List Pending) (session : Session) (cache : Cache)
      (light : ∀ frame ∈ own, frame.wantsRoom = false)
      (room : next.wantsRoom = true → task.wantsRoom = true ∨ composer.hasRoom session.scope = true) :
      composer.Steps ⟨task, pending, session⟩ ⟨next, own ++ pending, { session with cache := cache }⟩
  | includes (name : String) (arguments bindings : Entries) (label : String) (nodes : List Node)
      (pending : List Pending) (session : Session) (cache : Cache)
      (room : composer.hasRoom session.scope = true) :
      composer.Steps ⟨.includePage name arguments, pending, session⟩
        (Point.inChild ⟨.row nodes "", pending, { session with cache := cache }⟩ bindings label)
  | repeats (binding : String) (nodes : List Node) (value : Value) (values : List Value) (before : String)
      (bindings : Entries) (label : String) (pending : List Pending) (session : Session) :
      composer.Steps ⟨.rounds binding nodes (value :: values) before, pending, session⟩
        (Point.inChild ⟨.row nodes "", .round binding nodes values before :: pending, session⟩
          bindings label)

theorem expand_steps (composer : Composer) (task : Task) (pending : List Pending) (session : Session) :
    composer.Steps ⟨task, pending, session⟩ ⟨(composer.expand session.scope task).1,
      (composer.expand session.scope task).2 ++ pending, session⟩ := by
  have light := expand_light composer session.scope task
  exact .goesOn _ _ _ _ _ session.cache light.1 fun wants => .inl (light.2 wants)

theorem answer_steps (composer : Composer) (task : Task) (result : Except Fault Value)
    (pending : List Pending) (session : Session) (cache : Cache) :
    composer.Steps ⟨task, pending, session⟩ ⟨.answer result, pending, { session with cache := cache }⟩ :=
  .goesOn _ _ [] _ _ cache nofun nofun

theorem steps_of_step {composer : Composer} {point next : Point}
    (stepped : composer.step point = some next) : composer.Steps point next := by
  obtain ⟨task, pending, session⟩ := point
  cases task with
  | answer result =>
      cases pending with
      | nil => cases stepped
      | cons frame pending =>
          cases stepped
          exact .resumes result frame pending session
  | includePage name arguments =>
      simp only [step] at stepped
      split at stepped
      · rename_i room
        split at stepped
        · cases stepped
          exact answer_steps ..
        · cases stepped
          exact .includes _ _ _ _ _ _ _ _ room
      · cases stepped
        exact answer_steps ..
  | begin binding template values =>
      simp only [step] at stepped
      split at stepped
      · rename_i room
        split at stepped
        · cases stepped
          exact answer_steps ..
        · cases stepped
          exact .goesOn _ _ [] _ _ _ nofun fun _ => .inr room
      · cases stepped
        exact answer_steps ..
  | rounds binding nodes values before =>
      cases values with
      | nil =>
          cases stepped
          exact answer_steps ..
      | cons value values =>
          cases stepped
          exact .repeats ..
  | _ =>
      cases stepped
      exact expand_steps ..

/-! ## Bounds -/

variable {composer : Composer} {point next : Point}

theorem room_of_hasRoom {task : Task} {pending : List Pending} {session : Session}
    (bounded : Point.IsBounded composer.settings.maxDepth ⟨task, pending, session⟩)
    (room : composer.hasRoom session.scope = true) :
    (openChildren pending : Int) < composer.settings.maxDepth := by
  have counted : session.scope.nesting = openChildren pending := bounded.counted
  rw [← counted]
  exact of_decide_eq_true room

/-- A step keeps the bounds. -/
theorem Steps.bounded (steps : composer.Steps point next)
    (bounded : point.IsBounded composer.settings.maxDepth) :
    next.IsBounded composer.settings.maxDepth := by
  cases steps with
  | resumes result frame pending session => exact bounded.resume
  | goesOn task next own pending session cache light room =>
      refine bounded.goOn light ?_ rfl
      intro wants
      rcases room wants with wanted | room
      · exact bounded.task wanted
      · exact room_of_hasRoom bounded room
  | includes name arguments bindings label nodes pending session cache room =>
      have below := room_of_hasRoom bounded room
      have inside : Point.IsBounded composer.settings.maxDepth
          ⟨.row nodes "", pending, { session with cache := cache }⟩ :=
        ⟨bounded.counted, nofun, bounded.pending⟩
      exact inside.inChild below rfl bindings label
  | repeats binding nodes value values before bindings label pending session =>
      have below := bounded.task rfl
      have inside : Point.IsBounded composer.settings.maxDepth
          ⟨.row nodes "", .round binding nodes values before :: pending, session⟩ :=
        ⟨bounded.counted, nofun, fun _ => below, bounded.pending⟩
      exact inside.inChild below rfl bindings label

/-- A step that makes the nesting greater opens one child, where there is room for it. -/
theorem Steps.opens (steps : composer.Steps point next)
    (bounded : point.IsBounded composer.settings.maxDepth) (rises : point.nesting < next.nesting) :
    next.nesting = point.nesting + 1 ∧ (point.nesting : Int) < composer.settings.maxDepth := by
  cases steps with
  | resumes result frame pending session =>
      refine absurd rises (Nat.not_lt.2 ?_)
      show (frame.scope result session.scope).nesting ≤ session.scope.nesting
      cases frame with
      | child opened => exact Nat.sub_le _ _
      | layout page => cases result <;> exact Nat.le_refl _
      | _ => exact Nat.le_refl _
  | goesOn => exact absurd rises (Nat.lt_irrefl _)
  | includes name arguments bindings label nodes pending session cache room =>
      exact ⟨rfl, of_decide_eq_true room⟩
  | repeats binding nodes value values before bindings label pending session =>
      have counted : session.scope.nesting = openChildren pending := bounded.counted
      have below : (openChildren pending : Int) < composer.settings.maxDepth := bounded.task rfl
      refine ⟨rfl, ?_⟩
      show (session.scope.nesting : Int) < _
      rw [counted]
      exact below

/-- The bounds hold all along a course. -/
theorem Leads.bounded (leads : composer.Leads point next)
    (bounded : point.IsBounded composer.settings.maxDepth) :
    next.IsBounded composer.settings.maxDepth := by
  induction leads with
  | refl => exact bounded
  | tail _ stepped inductionHypothesis => exact (steps_of_step stepped).bounded inductionHypothesis

theorem startOf_bounded (composer : Composer) (page : Page) (arguments : Entries) (cache : Cache) :
    (composer.startOf page arguments cache).IsBounded composer.settings.maxDepth := by
  unfold startOf
  split
  · rename_i layout cache' found
    have opened : (composer.pageScope page layout arguments).nesting = 0 := by cases layout <;> rfl
    cases layout with
    | none => exact ⟨opened, nofun, trivial⟩
    | some layout => exact ⟨opened, nofun, nofun, trivial⟩
  · exact ⟨rfl, nofun, trivial⟩

end Composer

end Folio
