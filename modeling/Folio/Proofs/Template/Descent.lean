import Folio.Template.Parse

/-!
Contract: what a whole descent keeps because its steps keep it.

Owns: what a step of the descent can do, as conditions on cursors and faults; and that every part of the descent
keeps what its steps keep, to any depth.

Does not own: how deep the descent goes.
-/

namespace Folio.Template

/-! ## Steps -/

/-- A condition on cursors that is kept by advancing, and the faults that can arise under it: those at a cursor,
those of a number that is under the head, and the refusal to go deeper. -/
structure KeptByDescent (good : Cursor → Prop) (allowed : Fault → Prop) : Prop where
  advance : ∀ cursor, good cursor → good cursor.advance
  fault : ∀ cursor cause, good cursor → allowed (cursor.fault cause)
  number : ∀ cursor fault, good cursor → cursor.kind = .number →
    readNumber cursor.current.value = .error fault → allowed fault
  endless : allowed endlessNesting

/-- A reading that leaves a good cursor, or fails as is allowed. -/
def Keeps {α : Type} (good : Cursor → Prop) (allowed : Fault → Prop) (outcome : Except Fault (α × Cursor)) :
    Prop :=
  match outcome with
  | .ok (_, after) => good after
  | .error fault => allowed fault

section Steps

variable {good : Cursor → Prop} {allowed : Fault → Prop} {α β : Type}

theorem Keeps.bind {outcome : Except Fault (α × Cursor)} {next : α × Cursor → Except Fault (β × Cursor)}
    (keeps : Keeps good allowed outcome)
    (nextKeeps : ∀ result after, good after → Keeps good allowed (next (result, after))) :
    Keeps good allowed (outcome >>= next) := by
  rcases outcome with fault | ⟨result, after⟩
  · exact keeps
  · exact nextKeeps result after keeps

namespace KeptByDescent

variable (kept : KeptByDescent good allowed) {cursor : Cursor}

include kept

theorem expect {kind : TokenKind} {cause : SyntaxCause} {next : Cursor → Except Fault (β × Cursor)}
    (isGood : good cursor) (nextKeeps : ∀ after, good after → Keeps good allowed (next after)) :
    Keeps good allowed (cursor.expect kind cause >>= next) := by
  unfold Cursor.expect
  split
  · exact nextKeeps _ (kept.advance cursor isGood)
  · exact kept.fault cursor cause isGood

/-- A part that a closing token ends. -/
theorem closed {kind : TokenKind} {cause : SyntaxCause} (isGood : good cursor) (result : α) :
    Keeps good allowed (cursor.expect kind cause >>= fun after => .ok (result, after)) :=
  kept.expect isGood fun _ goodAfter => goodAfter

end KeptByDescent

end Steps

/-! ## The descent -/

/-- To so much depth every part of the descent keeps the condition. -/
structure DescentKeeps (good : Cursor → Prop) (allowed : Fault → Prop) (depth : Nat) : Prop where
  expression : ∀ cursor, good cursor → Keeps good allowed (parseExpression depth cursor)
  stages : ∀ cursor, good cursor → Keeps good allowed (parseStages depth cursor)
  argumentList : ∀ filter cursor, good cursor → Keeps good allowed (parseArgumentList depth filter cursor)
  arguments : ∀ cursor, good cursor → Keeps good allowed (parseArguments depth cursor)
  primary : ∀ cursor, good cursor → Keeps good allowed (parsePrimary depth cursor)
  segments : ∀ cursor, good cursor → Keeps good allowed (parseSegments depth cursor)
  items : ∀ cursor, good cursor → Keeps good allowed (parseItems depth cursor)
  entries : ∀ cursor, good cursor → Keeps good allowed (parseEntries depth cursor)
  entry : ∀ cursor, good cursor → Keeps good allowed (parseEntry depth cursor)

namespace DescentKeeps

variable {good : Cursor → Prop} {allowed : Fault → Prop} {depth : Nat} {cursor : Cursor}
  (kept : KeptByDescent good allowed) (deeper : DescentKeeps good allowed depth) (isGood : good cursor)

include kept deeper isGood

omit kept in
theorem expression_succ : Keeps good allowed (parseExpression (depth + 1) cursor) := by
  rw [parseExpression]
  apply (deeper.primary cursor isGood).bind
  intro root afterRoot goodRoot
  apply (deeper.stages afterRoot goodRoot).bind
  intro stages afterStages goodStages
  exact goodStages

theorem stages_succ : Keeps good allowed (parseStages (depth + 1) cursor) := by
  rw [parseStages]
  split
  · apply kept.expect (kept.advance cursor isGood)
    intro afterName goodName
    apply (deeper.argumentList _ afterName goodName).bind
    intro arguments afterArguments goodArguments
    apply (deeper.stages afterArguments goodArguments).bind
    intro stages afterStages goodStages
    exact goodStages
  · exact isGood

theorem argumentList_succ (filter : String) :
    Keeps good allowed (parseArgumentList (depth + 1) filter cursor) := by
  have goodInside := kept.advance cursor isGood
  rw [parseArgumentList]
  split
  · dsimp only
    split
    · exact kept.closed goodInside _
    · apply (deeper.arguments _ goodInside).bind
      intro arguments afterArguments goodArguments
      exact kept.closed goodArguments _
  · exact isGood

theorem arguments_succ : Keeps good allowed (parseArguments (depth + 1) cursor) := by
  rw [parseArguments]
  apply (deeper.expression cursor isGood).bind
  intro first afterFirst goodFirst
  dsimp only
  split
  · apply (deeper.arguments _ (kept.advance afterFirst goodFirst)).bind
    intro rest afterRest goodRest
    exact goodRest
  · exact goodFirst

theorem primary_succ : Keeps good allowed (parsePrimary (depth + 1) cursor) := by
  have goodNext := kept.advance cursor isGood
  rw [parsePrimary]
  split
  · exact goodNext
  · rename_i isNumber
    cases read : readNumber cursor.current.value with
    | error fault => exact kept.number cursor fault isGood isNumber read
    | ok number => exact goodNext
  · split
    · exact goodNext
    · apply (deeper.segments _ goodNext).bind
      intro segments after goodAfter
      exact goodAfter
  · apply (deeper.items _ goodNext).bind
    intro items after goodAfter
    exact kept.closed goodAfter _
  · apply (deeper.entries _ goodNext).bind
    intro entries after goodAfter
    exact kept.closed goodAfter _
  · apply (deeper.expression _ goodNext).bind
    intro inner after goodAfter
    exact kept.closed goodAfter _
  · exact kept.fault cursor _ isGood
  · exact kept.fault cursor _ isGood

theorem segments_succ : Keeps good allowed (parseSegments (depth + 1) cursor) := by
  have goodNext := kept.advance cursor isGood
  rw [parseSegments]
  split
  · dsimp only
    split
    · apply (deeper.segments _ (kept.advance _ goodNext)).bind
      intro segments after goodAfter
      exact goodAfter
    · split
      · apply (deeper.segments _ (kept.advance _ goodNext)).bind
        intro segments after goodAfter
        exact goodAfter
      · exact kept.fault _ _ goodNext
    · exact kept.fault _ _ goodNext
  · apply (deeper.expression _ goodNext).bind
    intro key after goodAfter
    apply kept.expect goodAfter
    intro closed goodClosed
    apply (deeper.segments closed goodClosed).bind
    intro segments after goodAfter
    exact goodAfter
  · exact isGood

theorem items_succ : Keeps good allowed (parseItems (depth + 1) cursor) := by
  rw [parseItems]
  split
  · exact isGood
  · apply (deeper.expression cursor isGood).bind
    intro first afterFirst goodFirst
    dsimp only
    split
    · apply (deeper.items _ (kept.advance afterFirst goodFirst)).bind
      intro rest afterRest goodRest
      exact goodRest
    · exact goodFirst

theorem entries_succ : Keeps good allowed (parseEntries (depth + 1) cursor) := by
  rw [parseEntries]
  split
  · exact isGood
  · apply (deeper.entry cursor isGood).bind
    intro entry afterEntry goodEntry
    dsimp only
    split
    · apply (deeper.entries _ (kept.advance afterEntry goodEntry)).bind
      intro rest afterRest goodRest
      exact goodRest
    · exact goodEntry

theorem entry_succ : Keeps good allowed (parseEntry (depth + 1) cursor) := by
  have goodKey := kept.advance cursor isGood
  rw [parseEntry]
  split
  · dsimp only
    split
    · apply (deeper.expression _ (kept.advance _ goodKey)).bind
      intro value after goodAfter
      exact goodAfter
    · split
      · exact goodKey
      · exact kept.fault _ _ goodKey
  · exact kept.fault cursor _ isGood

end DescentKeeps

/-- What every step keeps the whole descent keeps. -/
theorem KeptByDescent.descent {good : Cursor → Prop} {allowed : Fault → Prop}
    (kept : KeptByDescent good allowed) : ∀ depth, DescentKeeps good allowed depth
  | 0 =>
      { expression := fun _ _ => kept.endless
        stages := fun _ _ => kept.endless
        argumentList := fun _ _ _ => kept.endless
        arguments := fun _ _ => kept.endless
        primary := fun _ _ => kept.endless
        segments := fun _ _ => kept.endless
        items := fun _ _ => kept.endless
        entries := fun _ _ => kept.endless
        entry := fun _ _ => kept.endless }
  | depth + 1 =>
      have deeper := kept.descent depth
      { expression := fun _ isGood => deeper.expression_succ isGood
        stages := fun _ isGood => deeper.stages_succ kept isGood
        argumentList := fun filter _ isGood => deeper.argumentList_succ kept isGood filter
        arguments := fun _ isGood => deeper.arguments_succ kept isGood
        primary := fun _ isGood => deeper.primary_succ kept isGood
        segments := fun _ isGood => deeper.segments_succ kept isGood
        items := fun _ isGood => deeper.items_succ kept isGood
        entries := fun _ isGood => deeper.entries_succ kept isGood
        entry := fun _ isGood => deeper.entry_succ kept isGood }

/-- The tokens of an expression are good together: reading them fails as is allowed or not at all. -/
theorem KeptByDescent.allowed_of_ofTokens {good : Cursor → Prop} {allowed : Fault → Prop}
    (kept : KeptByDescent good allowed) {first : Token} {rest : List Token} (isGood : good ⟨first, rest⟩)
    {fault : Fault} (failed : Pipeline.ofTokens (first :: rest) = .error fault) : allowed fault := by
  rw [Pipeline.ofTokens] at failed
  dsimp only at failed
  split at failed
  · cases failed
    exact kept.fault _ _ isGood
  · have keeps := (kept.descent (sufficientDepth (rest.length + 1))).expression _ isGood
    rcases isRead : parseExpression (sufficientDepth (rest.length + 1)) ⟨first, rest⟩ with
      fault' | ⟨pipeline, after⟩
    · rw [isRead] at failed keeps
      cases failed
      exact keeps
    · rw [isRead] at failed keeps
      change (if after.kind = .finish then Except.ok pipeline else .error (after.fault _)) = _ at failed
      split at failed
      · cases failed
      · cases failed
        exact kept.fault after _ keeps

end Folio.Template
