import Folio.Scope

/-!
Contract: the store of frames seen as a stack of mappings.

Owns: the stack that a scope with its open children stands for; that every move on a scope does to its
chain of frames what it does to the stack; and that nothing done inside a child can be seen behind it.

A frame is found by its number, and numbers are given again when a frame has been dropped. What carries the
proofs is that no number which is still in use, be it the current one or one that an open child will bring
back, is ever the number of a frame that has been dropped.
-/

namespace Folio

/-! ## Stacks of mappings -/

/-- The mappings that are visible, innermost first, and for every open child those that were visible when it
was entered. -/
structure NameStack where
  maps : List Entries
  saved : List (List Entries)

namespace NameStack

/-- Without a root there is no mapping at all. -/
def start (root : Option Entries) : NameStack :=
  ⟨root.toList, []⟩

/-- The first binding of a name; an explicit `null` is a binding. -/
def find? (stack : NameStack) (name : String) : Option Value :=
  stack.maps.findSome? fun entries => entries.named? name

def move (stack : NameStack) : ScopeMove → NameStack
  | .push _ _ => stack
  | .extend bindings _ => { stack with maps := bindings :: stack.maps }
  | .enter bindings _ => ⟨bindings :: stack.maps, stack.maps :: stack.saved⟩
  | .leave =>
      match stack.saved with
      | [] => stack
      | maps :: saved => ⟨maps, saved⟩

def run (stack : NameStack) (moves : List ScopeMove) : NameStack :=
  moves.foldl move stack

end NameStack

namespace OpenScope

/-- A scope without open children: an empty one, or one with a root frame. -/
def start (root : Option Entries) (label : String) : OpenScope :=
  match root with
  | none => ⟨.empty, []⟩
  | some bindings => ⟨.ofRoot bindings label, []⟩

def run (state : OpenScope) (moves : List ScopeMove) : OpenScope :=
  moves.foldl move state

end OpenScope

/-! ## Numbers of frames -/

/-- A number, if there is one, that is smaller than a limit. -/
def IsBelow (limit : Nat) (index : Option Nat) : Prop :=
  ∀ number, index = some number → number < limit

theorem IsBelow.mono {limit limit' : Nat} {index : Option Nat} (below : IsBelow limit index)
    (larger : limit ≤ limit') : IsBelow limit' index := by
  intro number isNumber
  have small := below number isNumber
  omega

theorem frameChain_none (frames : List Frame) : frameChain frames none = [] := by
  cases frames with
  | nil => rfl
  | cons frame older => rfl

/-- A new frame starts a chain in front of the one that its parent starts. -/
theorem frameChain_newest (frame : Frame) (older : List Frame) :
    frameChain (frame :: older) (some older.length) = frame :: frameChain older frame.parent := by
  rw [frameChain, if_pos rfl]

/-- A new frame changes no chain that starts at an older one. -/
theorem frameChain_cons (frame : Frame) {older : List Frame} {index : Option Nat}
    (below : IsBelow older.length index) :
    frameChain (frame :: older) index = frameChain older index := by
  cases index with
  | none => rw [frameChain_none, frameChain_none]
  | some number =>
      have small := below number rfl
      rw [frameChain, if_neg (by omega)]

/-! ## What the store stands for -/

/-- The mappings of a chain of frames. -/
def mapsOf (frames : List Frame) (index : Option Nat) : List Entries :=
  (frameChain frames index).map Frame.bindings

theorem mapsOf_newest (frame : Frame) (older : List Frame) :
    mapsOf (frame :: older) (some older.length) = frame.bindings :: mapsOf older frame.parent := by
  rw [mapsOf, frameChain_newest, List.map_cons, mapsOf]

theorem mapsOf_cons (frame : Frame) {older : List Frame} {index : Option Nat}
    (below : IsBelow older.length index) : mapsOf (frame :: older) index = mapsOf older index := by
  rw [mapsOf, frameChain_cons frame below, mapsOf]

/-- Open children, innermost first, that will bring back the saved mappings. Every child has a smaller
number than those inside it, and brings back a frame that is older than its own. -/
def Restores (frames : List Frame) : Nat → List Scope.Child → List (List Entries) → Prop
  | _, [], [] => True
  | limit, child :: children, maps :: saved =>
      child.index < limit ∧ IsBelow child.index child.saved ∧
        mapsOf frames child.saved = maps ∧ Restores frames child.index children saved
  | _, _, _ => False

namespace Restores

variable {frames : List Frame} {limit : Nat} {children : List Scope.Child}
  {saved : List (List Entries)}

theorem mono {limit' : Nat} (restores : Restores frames limit children saved)
    (larger : limit ≤ limit') : Restores frames limit' children saved := by
  cases children with
  | nil =>
      cases saved with
      | nil => trivial
      | cons maps saved => exact restores.elim
  | cons child children =>
      cases saved with
      | nil => exact restores.elim
      | cons maps saved =>
          obtain ⟨small, others⟩ := restores
          exact ⟨Nat.lt_of_lt_of_le small larger, others⟩

/-- A frame that is newer than every child matters to none of them, whether it comes or goes. -/
theorem cons_iff (frame : Frame) (old : limit ≤ frames.length) :
    Restores (frame :: frames) limit children saved ↔ Restores frames limit children saved := by
  induction children generalizing limit saved with
  | nil => cases saved <;> exact Iff.rfl
  | cons child children inductionHypothesis =>
      cases saved with
      | nil => exact Iff.rfl
      | cons maps saved =>
          rw [Restores, Restores]
          refine and_congr_right fun small => and_congr_right fun below => ?_
          have older : child.index ≤ frames.length := by omega
          rw [mapsOf_cons frame (below.mono older), inductionHypothesis older]

end Restores

/-- A scope with its open children stands for a stack. -/
structure OpenScope.Represents (state : OpenScope) (stack : NameStack) : Prop where
  current : IsBelow state.scope.frames.length state.scope.current
  maps : mapsOf state.scope.frames state.scope.current = stack.maps
  restores : Restores state.scope.frames state.scope.frames.length state.children stack.saved
  nesting : state.scope.nesting = stack.saved.length

namespace OpenScope.Represents

variable {state : OpenScope} {stack : NameStack}

theorem start (root : Option Entries) (label : String) :
    (OpenScope.start root label).Represents (.start root) := by
  cases root with
  | none =>
      refine ⟨?_, rfl, trivial, rfl⟩
      intro number isNumber
      cases isNumber
  | some bindings =>
      refine ⟨?_, rfl, trivial, rfl⟩
      intro number isNumber
      cases isNumber
      exact Nat.zero_lt_one

theorem push (represents : state.Represents stack) (bindings : Entries) (label : String) :
    (state.move (.push bindings label)).Represents stack where
  current := represents.current.mono (Nat.le_succ _)
  maps := by
    have same := mapsOf_cons ⟨bindings, state.scope.current, label⟩ represents.current
    exact same.trans represents.maps
  restores := ((Restores.cons_iff _ (Nat.le_refl _)).2 represents.restores).mono (Nat.le_succ _)
  nesting := represents.nesting

/-- What adding a frame and making it current does, in a child and outside. -/
theorem newest (represents : state.Represents stack) (bindings : Entries) (label : String) :
    let frames := ⟨bindings, state.scope.current, label⟩ :: state.scope.frames
    IsBelow frames.length (some state.scope.frames.length) ∧
      mapsOf frames (some state.scope.frames.length) = bindings :: stack.maps := by
  intro frames
  constructor
  · intro number isNumber
    cases isNumber
    exact Nat.lt_succ_self _
  · rw [mapsOf_newest, represents.maps]

theorem extend (represents : state.Represents stack) (bindings : Entries) (label : String) :
    (state.move (.extend bindings label)).Represents (stack.move (.extend bindings label)) where
  current := (represents.newest bindings label).1
  maps := (represents.newest bindings label).2
  restores := (represents.push bindings label).restores
  nesting := represents.nesting

theorem enter (represents : state.Represents stack) (bindings : Entries) (label : String) :
    (state.move (.enter bindings label)).Represents (stack.move (.enter bindings label)) where
  current := (represents.newest bindings label).1
  maps := (represents.newest bindings label).2
  restores := by
    have outer := (Restores.cons_iff ⟨bindings, state.scope.current, label⟩
      (Nat.le_refl _)).2 represents.restores
    have saved := (represents.push bindings label).maps
    exact ⟨Nat.lt_succ_self _, represents.current, saved, outer⟩
  nesting := congrArg (· + 1) represents.nesting

/-- Leaving a child drops its frame where nothing newer stands on it. The frames that are brought back are
older, here and in all children that stay open. -/
theorem leave (represents : state.Represents stack) :
    (state.move .leave).Represents (stack.move .leave) := by
  obtain ⟨scope, children⟩ := state
  obtain ⟨maps, saved⟩ := stack
  have restores : Restores scope.frames scope.frames.length children saved := represents.restores
  have isNesting : scope.nesting = saved.length := represents.nesting
  cases children with
  | nil =>
      cases saved with
      | nil => exact represents
      | cons outer saved => exact restores.elim
  | cons child children =>
      cases saved with
      | nil => exact restores.elim
      | cons outer saved =>
          obtain ⟨small, below, isOuter, restores⟩ := restores
          have isLess : scope.nesting - 1 = saved.length := by
            rw [isNesting, List.length_cons, Nat.add_sub_cancel]
          change OpenScope.Represents ⟨scope.leave child, children⟩ ⟨outer, saved⟩
          unfold Scope.leave
          by_cases isNewest : child.index + 1 = scope.frames.length
          · rw [if_pos isNewest]
            cases isFrames : scope.frames with
            | nil =>
                rw [isFrames] at isNewest
                cases isNewest
            | cons frame older =>
                rw [isFrames] at isNewest isOuter restores
                have isOlder : child.index = older.length := Nat.succ.inj isNewest
                rw [isOlder] at below restores
                refine ⟨below, ?_, ?_, isLess⟩
                · exact (mapsOf_cons frame below).symm.trans isOuter
                · exact (Restores.cons_iff frame (Nat.le_refl _)).1 restores
          · rw [if_neg isNewest]
            have older : child.index ≤ scope.frames.length := Nat.le_of_lt small
            exact ⟨below.mono older, isOuter, restores.mono older, isLess⟩

/-- A scope still stands for its stack after the same move on both. -/
theorem move (represents : state.Represents stack) (step : ScopeMove) :
    (state.move step).Represents (stack.move step) := by
  cases step with
  | push bindings label => exact represents.push bindings label
  | extend bindings label => exact represents.extend bindings label
  | enter bindings label => exact represents.enter bindings label
  | leave => exact represents.leave

theorem run (represents : state.Represents stack) (moves : List ScopeMove) :
    (state.run moves).Represents (stack.run moves) := by
  induction moves generalizing state stack with
  | nil => exact represents
  | cons step moves inductionHypothesis => exact inductionHypothesis (represents.move step)

theorem resolve (represents : state.Represents stack) (name : String) :
    state.scope.resolve name = stack.find? name := by
  rw [NameStack.find?, ← represents.maps, mapsOf, List.findSome?_map]
  rfl

theorem depth (represents : state.Represents stack) :
    state.scope.depth = stack.maps.length := by
  rw [← represents.maps, mapsOf, List.length_map]
  rfl

end OpenScope.Represents

/-! ## Moves inside a child -/

/-- Whether moves leave every child that they enter, and, with so many entered before, no child but these. -/
def ScopeMove.stayInside : Nat → List ScopeMove → Bool
  | entered, [] => entered == 0
  | entered, .push _ _ :: moves => stayInside entered moves
  | entered, .extend _ _ :: moves => stayInside entered moves
  | entered, .enter _ _ :: moves => stayInside (entered + 1) moves
  | 0, .leave :: _ => false
  | entered + 1, .leave :: moves => stayInside entered moves

namespace NameStack

theorem run_append (stack : NameStack) (front back : List ScopeMove) :
    stack.run (front ++ back) = (stack.run front).run back :=
  List.foldl_append

/-- Moves that stay inside keep what is saved for the children around them. -/
theorem saved_run {moves : List ScopeMove} {inner outer : List (List Entries)} {maps : List Entries}
    (inside : ScopeMove.stayInside inner.length moves = true) :
    (run ⟨maps, inner ++ outer⟩ moves).saved = outer := by
  induction moves generalizing inner maps with
  | nil =>
      have isEmpty : inner.length = 0 := by simpa [ScopeMove.stayInside] using inside
      rw [List.eq_nil_of_length_eq_zero isEmpty]
      rfl
  | cons step moves inductionHypothesis =>
      cases step with
      | push bindings label => exact inductionHypothesis inside
      | extend bindings label => exact inductionHypothesis inside
      | enter bindings label =>
          have deeper : ScopeMove.stayInside (maps :: inner).length moves = true := inside
          exact inductionHypothesis deeper
      | leave =>
          cases inner with
          | nil => cases inside
          | cons first inner => exact inductionHypothesis inside

/-- A child leaves no trace, whatever is done inside. -/
theorem run_child (stack : NameStack) (bindings : Entries) (label : String)
    {inside : List ScopeMove} (stays : ScopeMove.stayInside 0 inside = true) :
    stack.run (.enter bindings label :: inside ++ [.leave]) = stack := by
  obtain ⟨maps, saved⟩ := stack
  rw [run_append]
  have kept : (run ⟨bindings :: maps, [] ++ maps :: saved⟩ inside).saved = maps :: saved :=
    saved_run stays
  change move (run ⟨bindings :: maps, maps :: saved⟩ inside) .leave = _
  rw [List.nil_append] at kept
  unfold move
  rw [kept]

end NameStack

/-- The store of frames refines a stack of mappings. After any moves on a scope that starts empty or with a
root, the scope finds what the stack finds after the same moves, for every name and with every default; it
is as deep as the stack has mappings, and as many children are open as the stack has saved. So what is done
inside a child, which may be left because its work is done or because it has failed, changes nothing that
can be seen behind it. -/
theorem scope_refines_stack (root : Option Entries) (rootLabel : String) (moves : List ScopeMove) :
    let state := (OpenScope.start root rootLabel).run moves
    let stack := (NameStack.start root).run moves
    (∀ name, state.scope.resolve name = stack.find? name) ∧
      (∀ name default, state.scope.lookup name default = (stack.find? name).getD default) ∧
      state.scope.depth = stack.maps.length ∧
      state.scope.nesting = stack.saved.length ∧
      ∀ bindings label inside, ScopeMove.stayInside 0 inside = true →
        let after := state.run (.enter bindings label :: inside ++ [.leave])
        (∀ name, after.scope.resolve name = state.scope.resolve name) ∧
          after.scope.depth = state.scope.depth ∧ after.scope.nesting = state.scope.nesting := by
  intro state stack
  have represents : state.Represents stack := (OpenScope.Represents.start root rootLabel).run moves
  refine ⟨represents.resolve, ?_, represents.depth, represents.nesting, ?_⟩
  · intro name default
    rw [Scope.lookup, represents.resolve]
  · intro bindings label inside stays after
    have behind : after.Represents stack := by
      have later := represents.run (.enter bindings label :: inside ++ [.leave])
      rwa [stack.run_child bindings label stays] at later
    refine ⟨?_, ?_, ?_⟩
    · intro name
      rw [behind.resolve, represents.resolve]
    · rw [behind.depth, represents.depth]
    · rw [behind.nesting, represents.nesting]

/-- The law where frames pile up: a frame that was pushed inside a child keeps the child's frame in the
store, under an explicit `null` that hides a binding, with a second child inside that is gone again. -/
theorem scope_refines_stack_at_pile :
    let moves : List ScopeMove := [.extend [(.str "a", .int 1)] "base"]
    let inside : List ScopeMove :=
      [.enter [(.str "a", .null)] "inner", .push [(.str "b", .int 2)] "kept", .leave,
        .extend [(.str "a", .int 3)] "more"]
    let state := (OpenScope.start (some []) "root").run moves
    let after := state.run (.enter [(.str "a", .null)] "child" :: inside ++ [.leave])
    ScopeMove.stayInside 0 inside = true ∧ after.scope.frames.length = 6 ∧
      after.scope.resolve "a" = state.scope.resolve "a" := by
  intro moves inside state after
  refine ⟨by decide, by decide, ?_⟩
  exact ((scope_refines_stack (some []) "root" moves).2.2.2.2 _ _ inside (by decide)).1 "a"

end Folio
