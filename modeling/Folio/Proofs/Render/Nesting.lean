import Folio.Proofs.Render.Termination

/-!
Contract: the frames of a scope during a render.

Owns: scopes whose frames form one straight chain; scopes that stand on a base, with one frame more for every
open child; that every step of a render keeps its scope on its base; that a child which is left takes its own
frame away and nothing else; and that every expression, row of nodes, partial and repeated template ends in the
scope in which it began.

Does not own: what is found in a scope, and how deep children may be nested.

A child is entered in one step and left in one step, and drops its frame only if that is the newest one. What
carries the proofs is that a child which waits to be left knows the number of its frame, and that this number
counts the frames of the base and those of the children around it.
-/

namespace Folio

open Folio.Template

/-! ## Straight scopes -/

namespace Scope

/-- The number of the newest of so many frames. -/
def newest : Nat → Option Nat
  | 0 => none
  | count + 1 => some count

/-- The child whose frame has a number. It brings back the frame right below its own. -/
def childAt (number : Nat) : Child :=
  ⟨number, newest number⟩

/-- The parent of every frame is the one right before it, and the newest frame is current. The number of a frame
is how many older ones there are. -/
structure IsStraight (scope : Scope) : Prop where
  parent : ∀ frame older, frame :: older <:+ scope.frames → frame.parent = newest older.length
  current : scope.current = newest scope.frames.length

/-- A straight scope that has the frames of a base at the bottom, and above them as many as children are open. -/
structure StandsOn (base scope : Scope) : Prop where
  straight : scope.IsStraight
  frames : base.frames <:+ scope.frames
  count : scope.frames.length = base.frames.length + scope.nesting

namespace IsStraight

variable {scope : Scope}

theorem empty : Scope.empty.IsStraight where
  parent frame older suffix := by
    cases List.suffix_nil.1 suffix
  current := rfl

theorem extend (straight : scope.IsStraight) (bindings : Entries) (label : String) :
    (scope.extend bindings label).IsStraight where
  parent frame older suffix := by
    rcases List.suffix_cons_iff.1 suffix with isNew | isOld
    · cases isNew
      exact straight.current
    · exact straight.parent frame older isOld
  current := rfl

theorem enter (straight : scope.IsStraight) (bindings : Entries) (label : String) :
    (scope.enter bindings label).2.IsStraight :=
  ⟨(straight.extend bindings label).parent, rfl⟩

theorem frameChain_eq {frames : List Frame}
    (parent : ∀ frame older, frame :: older <:+ frames → frame.parent = newest older.length) :
    frameChain frames (newest frames.length) = frames := by
  induction frames with
  | nil => rfl
  | cons frame older inductionHypothesis =>
      have olderSeen := inductionHypothesis fun other oldest suffix =>
        parent other oldest (suffix.trans (List.suffix_cons frame older))
      rw [List.length_cons, newest, frameChain_newest, parent frame older List.suffix_rfl, olderSeen]

/-- No frame of a straight scope is hidden. -/
theorem chain_eq (straight : scope.IsStraight) : scope.chain = scope.frames := by
  rw [chain, straight.current]
  exact frameChain_eq straight.parent

end IsStraight

namespace StandsOn

variable {base scope : Scope}

/-- What a scope without open children stands on is itself. -/
theorem self (straight : scope.IsStraight) (closed : scope.nesting = 0) : StandsOn scope scope where
  straight := straight
  frames := List.suffix_rfl
  count := by rw [closed, Nat.add_zero]

theorem enter (stands : StandsOn base scope) (bindings : Entries) (label : String) :
    StandsOn base (scope.enter bindings label).2 where
  straight := stands.straight.enter bindings label
  frames := stands.frames.trans (List.suffix_cons _ scope.frames)
  count := by
    show scope.frames.length + 1 = base.frames.length + (scope.nesting + 1)
    rw [stands.count, Nat.add_assoc]

/-- A child that knows its number is left by taking the newest frame away. -/
theorem leave (stands : StandsOn base scope) {outer : Nat} (isOpen : scope.nesting = outer + 1) :
    ∃ frame older, scope.frames = frame :: older ∧ older.length = base.frames.length + outer ∧
      scope.leave (childAt (base.frames.length + outer)) = ⟨older, newest older.length, outer⟩ ∧
      StandsOn base ⟨older, newest older.length, outer⟩ := by
  have count := stands.count
  rw [isOpen] at count
  cases isFrames : scope.frames with
  | nil =>
      rw [isFrames, List.length_nil] at count
      omega
  | cons frame older =>
      rw [isFrames, List.length_cons] at count
      have isNumber : older.length = base.frames.length + outer := by omega
      refine ⟨frame, older, rfl, isNumber, ?_, ?_, ?_, isNumber⟩
      · have isNewest : older.length + 1 = scope.frames.length := by rw [isFrames, List.length_cons]
        rw [← isNumber, Scope.leave, childAt, if_pos isNewest, isFrames, isOpen]
        rfl
      · refine ⟨fun other oldest suffix => ?_, rfl⟩
        refine stands.straight.parent other oldest ?_
        rw [isFrames]
        exact suffix.trans (List.suffix_cons frame older)
      · have isSuffix := stands.frames
        rw [isFrames] at isSuffix
        rcases List.suffix_cons_iff.1 isSuffix with whole | isOld
        · have sameLength := congrArg List.length whole
          rw [List.length_cons] at sameLength
          omega
        · exact isOld

/-- Without an open child there are no frames but those of the base, so a frame may be added to both. -/
theorem extend (stands : StandsOn base scope) (straight : base.IsStraight) (closed : scope.nesting = 0)
    (bindings : Entries) (label : String) :
    StandsOn (base.extend bindings label) (scope.extend bindings label) := by
  have count := stands.count
  rw [closed, Nat.add_zero] at count
  have sameFrames : base.frames = scope.frames := stands.frames.eq_of_length count.symm
  have sameCurrent : base.current = scope.current := by
    rw [straight.current, stands.straight.current, sameFrames]
  have sameExtended : (base.extend bindings label).frames = (scope.extend bindings label).frames := by
    rw [Scope.extend, Scope.extend, push, push, sameCurrent, sameFrames]
  refine ⟨stands.straight.extend bindings label, ⟨[], sameExtended⟩, ?_⟩
  show scope.frames.length + 1 = base.frames.length + 1 + scope.nesting
  rw [count, closed, Nat.add_zero]

end StandsOn

end Scope

/-! ## Children that wait to be left -/

namespace Course

def Pending.isLayout : Pending → Bool
  | .layout _ => true
  | _ => false

/-- The tasks that are calls: the value of an expression, the text of a row of nodes or of the rest of one, a
partial, and a repeated template. -/
def Task.isCall : Task → Bool
  | .evaluate _ => true
  | .row .. => true
  | .includePage .. => true
  | .repeatTemplate .. => true
  | _ => false

/-- Every child that waits knows the number of its frame, which lies above so many frames of the base and above
the frames of the children around it. No layout waits among these. -/
def KnowFrames (base : Nat) : List Pending → Prop
  | [] => True
  | .child opened :: pending =>
      opened = Scope.childAt (base + openChildren pending) ∧ KnowFrames base pending
  | frame :: pending => frame.isLayout = false ∧ KnowFrames base pending

/-- The bases of a render that starts in a scope, and the frames that wait at the bottom while it stands on
them: first the start itself, where a layout may wait, and then, around the body of a page, the start with the
body added for the layout. -/
inductive IsBase (start : Scope) : Scope → List Pending → Prop where
  | start (layout : Option Page) : IsBase start start (layout.toList.map .layout)
  | layout (body : Value) :
      IsBase start (start.extend [(.str Composer.bodyName, body)] "layout-body") []

/-- The scope of a point stands on a base, and the children that wait know their frames above it. -/
def Point.IsNested (start : Scope) (point : Point) : Prop :=
  ∃ base bottom above, IsBase start base bottom ∧ point.pending = above ++ bottom ∧
    base.StandsOn point.session.scope ∧ KnowFrames base.frames.length above

variable {start base : Scope} {point : Point} {pending own bottom above : List Pending} {frame : Pending}
  {count : Nat}

theorem openChildren_append_eq (above bottom : List Pending) :
    openChildren (above ++ bottom) = openChildren above + openChildren bottom := by
  induction above with
  | nil => exact (Nat.zero_add _).symm
  | cons frame above inductionHypothesis =>
      cases frame with
      | child opened =>
          rw [List.cons_append, openChildren, openChildren, inductionHypothesis, Nat.add_right_comm]
      | _ => exact inductionHypothesis

theorem IsBase.openChildren_eq (isBase : IsBase start base bottom) (above : List Pending) :
    openChildren (above ++ bottom) = openChildren above := by
  have none : openChildren bottom = 0 := by
    cases isBase with
    | start layout => cases layout <;> rfl
    | layout body => rfl
  rw [openChildren_append_eq, none, Nat.add_zero]

theorem KnowFrames.append (know : KnowFrames count pending)
    (light : ∀ frame ∈ own, frame.wantsRoom = false) (plain : ∀ frame ∈ own, frame.isLayout = false) :
    KnowFrames count (own ++ pending) := by
  induction own with
  | nil => exact know
  | cons frame own inductionHypothesis =>
      have others := inductionHypothesis (fun other member => light other (List.mem_cons_of_mem frame member))
        fun other member => plain other (List.mem_cons_of_mem frame member)
      have isLight := light frame List.mem_cons_self
      have isPlain := plain frame List.mem_cons_self
      cases frame with
      | child opened => cases isLight
      | _ => exact ⟨isPlain, others⟩

theorem KnowFrames.tail (know : KnowFrames count (frame :: pending)) : KnowFrames count pending := by
  cases frame <;> exact know.2

/-! ## Steps -/

/-- A child is opened above all frames that there are. -/
theorem Point.IsNested.inChild (nested : point.IsNested start)
    (counted : point.nesting = openChildren point.pending) (bindings : Entries) (label : String) :
    (point.inChild bindings label).IsNested start := by
  obtain ⟨base, bottom, above, isBase, isPending, stands, know⟩ := nested
  rw [isPending, isBase.openChildren_eq] at counted
  refine ⟨base, bottom, .child (point.session.scope.enter bindings label).1 :: above, isBase, ?_,
    stands.enter bindings label, ?_, know⟩
  · rw [List.cons_append, ← isPending]
    rfl
  · have isNumber : point.session.scope.frames.length = base.frames.length + openChildren above := by
      rw [← counted]
      exact stands.count
    show (⟨point.session.scope.frames.length, point.session.scope.current⟩ : Scope.Child) = _
    rw [stands.straight.current, isNumber]
    rfl

/-- An answer that a child has waited for takes the frame of the child away; one that the layout has waited for
adds a frame to the base. -/
theorem Point.IsNested.resume {result : Except Fault Value} {session : Session}
    (nested : IsNested start ⟨.answer result, frame :: pending, session⟩) (straight : start.IsStraight)
    (counted : session.scope.nesting = openChildren (frame :: pending)) :
    (frame.resume result pending session).IsNested start := by
  obtain ⟨base, bottom, above, isBase, isPending, stands, know⟩ := nested
  replace isPending : frame :: pending = above ++ bottom := isPending
  rw [isPending, isBase.openChildren_eq] at counted
  rcases List.append_eq_cons_iff.1 isPending.symm with ⟨rfl, isBottom⟩ | ⟨inner, rfl, rfl⟩
  · cases isBase with
    | layout body => cases isBottom
    | start layout =>
        cases layout with
        | none => cases isBottom
        | some page =>
            cases isBottom
            cases result with
            | error fault => exact ⟨start, [], [], .start none, rfl, stands, trivial⟩
            | ok value =>
                exact ⟨_, [], [], .layout value, rfl, stands.extend straight counted _ _, trivial⟩
  · cases frame with
    | child opened =>
        obtain ⟨rfl, know⟩ := know
        obtain ⟨frame, older, -, -, left, standsOutside⟩ := stands.leave counted
        refine ⟨base, bottom, inner, isBase, rfl, ?_, know⟩
        show base.StandsOn (session.scope.leave _)
        rw [left]
        exact standsOutside
    | layout page => cases know.1
    | _ => exact ⟨base, bottom, inner, isBase, rfl, stands, know.tail⟩

end Course

namespace Composer

open Course

variable {composer : Composer} {start : Scope} {point next : Point}

theorem layouts_expand (composer : Composer) (scope : Scope) (task : Task) (pending : List Pending) :
    ((composer.expand scope task).2 ++ pending).countP Pending.isLayout =
      pending.countP Pending.isLayout := by
  unfold expand
  repeat' split
  all_goals rfl

/-- No step makes a layout wait. -/
theorem layouts_of_step (stepped : composer.step point = some next) :
    next.pending.countP Pending.isLayout ≤ point.pending.countP Pending.isLayout := by
  obtain ⟨task, pending, session⟩ := point
  cases task with
  | answer result =>
      cases pending with
      | nil => cases stepped
      | cons frame pending =>
          cases stepped
          exact (List.sublist_cons_self frame pending).countP_le
  | includePage name arguments =>
      simp only [step] at stepped
      repeat' split at stepped
      all_goals
        cases stepped
        exact Nat.le_refl _
  | begin binding template values =>
      simp only [step] at stepped
      repeat' split at stepped
      all_goals
        cases stepped
        exact Nat.le_refl _
  | rounds binding nodes values before =>
      cases values with
      | nil =>
          cases stepped
          exact Nat.le_refl _
      | cons value values =>
          cases stepped
          exact Nat.le_refl _
  | _ =>
      rw [step_quiet composer rfl] at stepped
      obtain rfl := Option.some.inj stepped
      exact Nat.le_of_eq (composer.layouts_expand session.scope _ pending)

theorem isNested_of_step (stepped : composer.step point = some next) (straight : start.IsStraight)
    (counted : point.nesting = openChildren point.pending) (nested : point.IsNested start) :
    next.IsNested start := by
  have layouts := layouts_of_step stepped
  cases steps_of_step stepped with
  | resumes result frame pending session => exact nested.resume straight counted
  | goesOn task next own pending session cache light room =>
      obtain ⟨base, bottom, above, isBase, isPending, stands, know⟩ := nested
      have plain : ∀ frame ∈ own, frame.isLayout = false := by
        replace layouts : (own ++ pending).countP Pending.isLayout ≤ pending.countP Pending.isLayout := layouts
        rw [List.countP_append] at layouts
        intro frame member
        have none : own.countP Pending.isLayout = 0 := by omega
        exact Bool.eq_false_iff.2 (List.countP_eq_zero.1 none frame member)
      refine ⟨base, bottom, own ++ above, isBase, ?_, stands, know.append light plain⟩
      rw [List.append_assoc, ← isPending]
  | includes name arguments bindings label nodes pending session cache room =>
      have inside : Point.IsNested start ⟨.row nodes "", pending, { session with cache := cache }⟩ := nested
      exact inside.inChild counted bindings label
  | repeats binding nodes value values before bindings label pending session =>
      obtain ⟨base, bottom, above, isBase, isPending, stands, know⟩ := nested
      have inside : Point.IsNested start
          ⟨.row nodes "", .round binding nodes values before :: pending, session⟩ :=
        ⟨base, bottom, .round binding nodes values before :: above, isBase,
          congrArg (List.cons _) isPending, stands, rfl, know⟩
      exact inside.inChild counted bindings label

/-! ## Calls -/

/-- A call finds its answer, a value or a fault, in the scope in which it began. What waits for the answer is not
touched. -/
theorem call_leads (composer : Composer) {point : Point} (isCall : point.task.isCall = true) :
    ∃ result after, composer.Leads point ⟨.answer result, point.pending, after⟩ ∧
      after.scope = point.session.scope := by
  obtain ⟨task, pending, session⟩ := point
  have belows : BelowPerforms composer (composer.levelsBelow session.scope) :=
    fun lower _ => composer.rows_perform lower
  cases task with
  | evaluate expr => exact ⟨_, _, evaluate_performs (calls_perform belows) expr pending session rfl⟩
  | row nodes before => exact ⟨_, _, composer.rows_perform _ nodes before pending session rfl⟩
  | includePage name arguments =>
      exact ⟨_, _, includePage_performs belows name arguments pending session rfl⟩
  | repeatTemplate template collection binding =>
      exact ⟨_, _, repeatTemplate_performs belows template collection binding pending session rfl⟩
  | _ => cases isCall

/-- Every call leaves the scope as it has found it, whether it has a result or fails. -/
theorem calls_keepScope (composer : Composer) (level : Nat) (session : Session) :
    let below := composer.below level
    (∀ expr, (evaluate (composer.call below) expr session).2.scope = session.scope) ∧
      (∀ pipeline, (evaluatePipeline (composer.call below) pipeline session).2.scope = session.scope) ∧
      (∀ nodes, (composer.renderNodes level nodes session).2.scope = session.scope) ∧
      (∀ name arguments, (composer.includePage below name arguments session).2.scope = session.scope) ∧
      ∀ template collection binding,
        (composer.repeatTemplate below template collection binding session).2.scope = session.scope := by
  intro below
  have agree := composer.agree_inPlace
  have levels := agree.levels rfl level
  refine ⟨?_, ?_, ?_, ?_, ?_⟩
  · intro expr
    exact Session.Placed.scope_kept (fun view => (agree.calls levels view).evaluate expr) session
  · intro pipeline
    exact Session.Placed.scope_kept (fun view => (agree.calls levels view).evaluatePipeline pipeline) session
  · intro nodes
    exact composer.renderNodes_keepsScope level nodes session
  · intro name arguments
    exact Session.Placed.scope_kept (agree.includePage levels name arguments) session
  · intro template collection binding
    exact Session.Placed.scope_kept (agree.repeatTemplate levels template collection binding) session

/-! ## Renders -/

/-- The renders of pages and of texts: where the course of each starts, and what the render gives. -/
inductive Renders (composer : Composer) : Point → Except Fault String × Cache → Prop where
  | page (page : Page) (arguments : Entries) (cache : Cache) :
      composer.Renders (composer.startOf page arguments cache) (composer.renderPage page arguments cache)
  | text (text : String) (arguments : Entries) (cache : Cache) :
      composer.Renders (composer.startOfText text arguments cache) (composer.renderText text arguments cache)

theorem pageScope_isStraight (composer : Composer) (page : Page) (layout : Option Page)
    (arguments : Entries) : (composer.pageScope page layout arguments).IsStraight := by
  cases layout with
  | none => exact ((Scope.IsStraight.empty.extend _ _).extend _ _).extend _ _
  | some layout => exact (((Scope.IsStraight.empty.extend _ _).extend _ _).extend _ _).extend _ _

theorem textScope_isStraight (composer : Composer) (arguments : Entries) :
    (composer.textScope arguments).IsStraight :=
  (Scope.IsStraight.empty.extend _ _).extend _ _

namespace Renders

variable {outcome : Except Fault String × Cache} {start point : Point}

theorem leads (renders : composer.Renders start outcome) :
    ∃ after, composer.Leads start ⟨.answer (outcome.1.map .str), [], after⟩ ∧
      after.cache = outcome.2 := by
  cases renders with
  | page page arguments cache => exact composer.startOf_leads page arguments cache
  | text text arguments cache => exact composer.startOfText_leads text arguments cache

theorem bounded (renders : composer.Renders start outcome) :
    start.IsBounded composer.settings.maxDepth := by
  cases renders with
  | page page arguments cache => exact composer.startOf_bounded page arguments cache
  | text text arguments cache =>
      unfold startOfText
      cases parseTemplate text with
      | ok nodes => exact ⟨rfl, nofun, trivial⟩
      | error fault => exact ⟨rfl, nofun, trivial⟩

/-- A render starts in a straight scope, in which a layout may wait and nothing else. -/
theorem begins (renders : composer.Renders start outcome) :
    start.session.scope.IsStraight ∧ ∃ layout : Option Page, start.pending = layout.toList.map .layout := by
  cases renders with
  | page page arguments cache =>
      unfold startOf
      rcases composer.library.findLayout page composer.settings.layoutName cache with ⟨found, cache'⟩
      cases found with
      | ok layout => exact ⟨composer.pageScope_isStraight page layout arguments, layout, rfl⟩
      | error fault => exact ⟨.empty, none, rfl⟩
  | text text arguments cache =>
      unfold startOfText
      cases parseTemplate text with
      | ok nodes => exact ⟨composer.textScope_isStraight arguments, none, rfl⟩
      | error fault => exact ⟨.empty, none, rfl⟩

/-- The scope stands on its base, and the children know their frames, all along the course of a render. -/
theorem isNested (renders : composer.Renders start outcome) (leads : composer.Leads start point) :
    point.IsNested start.session.scope := by
  obtain ⟨straight, layout, isPending⟩ := renders.begins
  induction leads with
  | refl =>
      have isBase : IsBase start.session.scope _ _ := .start layout
      have closed : start.session.scope.nesting = 0 := by
        have counted : start.session.scope.nesting = openChildren start.pending := renders.bounded.counted
        rw [counted, isPending]
        exact isBase.openChildren_eq []
      exact ⟨_, _, [], isBase, isPending, .self straight closed, trivial⟩
  | tail reached stepped inductionHypothesis =>
      exact isNested_of_step stepped straight (Leads.bounded reached renders.bounded).counted
        inductionHypothesis

end Renders

/-- A child is left by taking the newest frame away, which is its own. -/
theorem leaves_ownFrame {point : Point} (nested : point.IsNested start)
    (counted : point.nesting = openChildren point.pending) {opened : Scope.Child} {pending : List Pending}
    (waits : point.pending = .child opened :: pending) :
    ∃ frame older, point.session.scope.frames = frame :: older ∧ opened = Scope.childAt older.length ∧
      point.session.scope.leave opened = ⟨older, Scope.newest older.length, point.nesting - 1⟩ := by
  obtain ⟨base, bottom, above, isBase, isPending, stands, know⟩ := nested
  rw [isPending, isBase.openChildren_eq] at counted
  rw [waits] at isPending
  rcases List.append_eq_cons_iff.1 isPending.symm with ⟨rfl, isBottom⟩ | ⟨inner, rfl, rfl⟩
  · cases isBase with
    | layout body => cases isBottom
    | start layout => cases layout <;> cases isBottom
  · obtain ⟨frame, older, isFrames, isNumber, left, -⟩ := stands.leave counted
    refine ⟨frame, older, isFrames, ?_, ?_⟩
    · rw [isNumber]
      exact know.1
    · rw [know.1, left, counted, openChildren, Nat.add_sub_cancel]

/-- The frames of a render are nested like its children. The course of a render ends with what the render gives
and without an open child. At every point on the way the scope is one straight chain, in which every frame has
the one before it as its parent, the newest is current and none is hidden: the frames that the render starts
with, and the one with the body of the page once its layout renders, and above these one for each open child. A
child that is left takes away the newest frame, which is its own, and brings back the one below. Every
expression, row of nodes, partial and repeated template that is begun on the way has its answer, a value or a
fault, in the scope in which it began; and on whatever session they work, with so many levels left below, they
leave the scope as they have found it. Filters that observe a scope do not change it. -/
theorem frames_nested_like_children {outcome : Except Fault String × Cache} {start : Point}
    (renders : composer.Renders start outcome) :
    (∃ last, composer.Leads start last ∧ composer.step last = none ∧ last.outcome? = some outcome.1 ∧
        last.session.cache = outcome.2 ∧ last.nesting = 0) ∧
      (∀ point, composer.Leads start point →
        (∃ base bottom, IsBase start.session.scope base bottom ∧ bottom <:+ point.pending ∧
            base.StandsOn point.session.scope) ∧
          point.session.scope.chain = point.session.scope.frames ∧
          (∀ result opened pending, point.task = .answer result → point.pending = .child opened :: pending →
            ∃ frame older, point.session.scope.frames = frame :: older ∧
              opened = Scope.childAt older.length ∧
              point.session.scope.leave opened = ⟨older, Scope.newest older.length, point.nesting - 1⟩) ∧
          (point.task.isCall = true →
            ∃ result after, composer.Leads point ⟨.answer result, point.pending, after⟩ ∧
              after.scope = point.session.scope)) ∧
      ∀ level session,
        let below := composer.below level
        (∀ expr, (evaluate (composer.call below) expr session).2.scope = session.scope) ∧
          (∀ pipeline, (evaluatePipeline (composer.call below) pipeline session).2.scope = session.scope) ∧
          (∀ nodes, (composer.renderNodes level nodes session).2.scope = session.scope) ∧
          (∀ name arguments, (composer.includePage below name arguments session).2.scope = session.scope) ∧
          ∀ template collection binding,
            (composer.repeatTemplate below template collection binding session).2.scope = session.scope := by
  refine ⟨?_, ?_, composer.calls_keepScope⟩
  · obtain ⟨after, leads, sameCache⟩ := renders.leads
    refine ⟨_, leads, rfl, ?_, sameCache, (leads.bounded renders.bounded).counted⟩
    rcases outcome.1 with fault | text
    · rfl
    · rfl
  · intro point leads
    have nested := renders.isNested leads
    have counted := (leads.bounded renders.bounded).counted
    refine ⟨?_, ?_, ?_, composer.call_leads⟩
    · obtain ⟨base, bottom, above, isBase, isPending, stands, -⟩ := nested
      exact ⟨base, bottom, isBase, ⟨above, isPending.symm⟩, stands⟩
    · obtain ⟨base, bottom, above, -, -, stands, -⟩ := nested
      exact stands.straight.chain_eq
    · intro result opened pending answered waits
      exact leaves_ownFrame nested counted waits

/-- The law at a render that fails inside a repeated template of a partial: the frames of both children are gone
when the fault comes out. -/
theorem frames_nested_like_children_at_failure :
    let composer : Composer :=
      ⟨.default, ⟨.memory [("p.html", "\x7b\x7b '\x7b\x7b it | nope \x7d\x7d' | forEach(xs) \x7d\x7d")],
        ".html"⟩, .standard⟩
    let text := "\x7b\x7b 'p' | partial(\x7b xs: [1] \x7d) \x7d\x7d"
    let start := composer.startOfText text [] .empty
    composer.Renders start (composer.renderText text [] .empty) ∧
      (composer.renderText text [] .empty).1 = .error (.unknownFilter "nope") ∧
      ∃ last base bottom, composer.Leads start last ∧
        last.outcome? = some (.error (.unknownFilter "nope")) ∧ last.nesting = 0 ∧
        IsBase start.session.scope base bottom ∧ base.StandsOn last.session.scope := by
  intro composer text start
  have renders : composer.Renders start (composer.renderText text [] .empty) := .text text [] .empty
  have fails : (composer.renderText text [] .empty).1 = .error (.unknownFilter "nope") := by
    decide +kernel
  obtain ⟨⟨last, leads, -, isOutcome, -, closed⟩, along, -⟩ := frames_nested_like_children renders
  obtain ⟨⟨base, bottom, isBase, -, stands⟩, -⟩ := along last leads
  rw [fails] at isOutcome
  exact ⟨renders, fails, last, base, bottom, leads, isOutcome, closed, isBase, stands⟩

end Composer

end Folio
