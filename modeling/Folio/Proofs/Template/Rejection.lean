import Folio.Proofs.Template.Lexing
import Folio.Template.Node

/-!
Contract: how reading an expression can fail.

Owns: faults at given places or at numerals; cursors over rows of tokens that end with a finish token; and that
each part of the descent, with as much depth as the tokens ahead can use, either leaves such a cursor with fewer
tokens ahead or fails at the place of a token, so that the depth given at the start is never used up.

Does not own: which places the tokens have.
-/

namespace Folio.Template

open Folio.Text Folio.Number

variable {places : Position → Prop}

/-! ## Faults -/

/-- A fault of reading: something malformed at one of the places, or a numeral that stands for no number. -/
def IsFaultAt (places : Position → Prop) (fault : Fault) : Prop :=
  (∃ error, fault = .malformed error ∧ places error.place) ∨ ∃ cause, fault = .mishap (.numeral cause)

theorem IsFaultAt.mono {places' : Position → Prop} {fault : Fault} (isAt : IsFaultAt places fault)
    (wider : ∀ place, places place → places' place) : IsFaultAt places' fault := by
  rcases isAt with ⟨error, isMalformed, isPlace⟩ | isNumeral
  · exact .inl ⟨error, isMalformed, wider error.place isPlace⟩
  · exact .inr isNumeral

theorem isFaultAt_of_readNumber {numeral : String} {fault : Fault}
    (failed : readNumber numeral = .error fault) : IsFaultAt places fault := by
  unfold readNumber at failed
  split at failed
  all_goals
    split at failed
    · cases failed
    · rename_i cause _
      cases failed
      exact .inr ⟨cause, rfl⟩

/-! ## Cursors -/

/-- The number of tokens behind the head. -/
def Cursor.ahead (cursor : Cursor) : Nat :=
  cursor.following.length

/-- The tokens of the row stand at the places, and the last one is a finish token. -/
structure Cursor.Fits (places : Position → Prop) (cursor : Cursor) : Prop where
  placed : ∀ token ∈ cursor.current :: cursor.following, places token.place
  ends : ∃ front finish, cursor.current :: cursor.following = front ++ [finish] ∧ finish.kind = .finish

namespace Cursor.Fits

variable {cursor : Cursor}

/-- A head that is not at the finish token has a token ahead to move to. -/
theorem advance (fits : cursor.Fits places) (unfinished : cursor.kind ≠ .finish) :
    cursor.advance.Fits places ∧ cursor.advance.ahead + 1 = cursor.ahead := by
  obtain ⟨current, following⟩ := cursor
  obtain ⟨placed, front, finish, isRow, isFinish⟩ := fits
  dsimp only at isRow
  cases front with
  | nil =>
      cases isRow
      exact absurd isFinish unfinished
  | cons first front =>
      obtain ⟨-, isRow⟩ := List.cons.inj isRow
      cases following with
      | nil => exact absurd isRow.symm (List.append_ne_nil_of_right_ne_nil front (List.cons_ne_nil _ _))
      | cons next rest =>
          have isAdvance : (⟨current, next :: rest⟩ : Cursor).advance = ⟨next, rest⟩ := by
            rw [Cursor.advance, if_neg unfinished]
          rw [isAdvance]
          refine ⟨⟨?_, front, finish, isRow, isFinish⟩, rfl⟩
          intro token member
          exact placed token (List.mem_cons_of_mem current member)

theorem fault (fits : cursor.Fits places) (cause : SyntaxCause) : IsFaultAt places (cursor.fault cause) :=
  .inl ⟨_, rfl, fits.placed cursor.current List.mem_cons_self⟩

end Cursor.Fits

/-! ## Outcomes -/

/-- A reading that leaves a cursor with fewer than `bound` tokens ahead, or fails at one of the places. -/
def Gives {α : Type} (places : Position → Prop) (bound : Nat) (outcome : Except Fault (α × Cursor)) : Prop :=
  match outcome with
  | .ok (_, after) => after.Fits places ∧ after.ahead < bound
  | .error fault => IsFaultAt places fault

namespace Gives

variable {α β : Type} {bound bound' : Nat} {cursor : Cursor}

theorem ok {result : α} (fits : cursor.Fits places) (fewer : cursor.ahead < bound) :
    Gives places bound (.ok (result, cursor)) :=
  ⟨fits, fewer⟩

theorem fault (fits : cursor.Fits places) (cause : SyntaxCause) :
    Gives places bound (.error (cursor.fault cause) : Except Fault (α × Cursor)) :=
  fits.fault cause

theorem bind {outcome : Except Fault (α × Cursor)} {next : α × Cursor → Except Fault (β × Cursor)}
    (gives : Gives places bound outcome)
    (nextGives : ∀ result after, after.Fits places → after.ahead < bound →
      Gives places bound' (next (result, after))) :
    Gives places bound' (outcome >>= next) := by
  rcases outcome with fault | ⟨result, after⟩
  · exact gives
  · exact nextGives result after gives.1 gives.2

/-- Moving past a token of a kind takes the token away, or fails at it. -/
theorem expect {kind : TokenKind} {cause : SyntaxCause} {next : Cursor → Except Fault (β × Cursor)}
    (fits : cursor.Fits places) (unfinished : kind ≠ .finish)
    (nextGives : ∀ after, after.Fits places → after.ahead < cursor.ahead → Gives places bound (next after)) :
    Gives places bound (cursor.expect kind cause >>= next) := by
  unfold Cursor.expect
  by_cases found : cursor.kind = kind
  · rw [if_pos found]
    subst found
    obtain ⟨fitsAfter, fewer⟩ := fits.advance unfinished
    exact nextGives cursor.advance fitsAfter (by omega)
  · rw [if_neg found]
    exact fits.fault cause

/-- A part that a closing token ends. -/
theorem closed {kind : TokenKind} {cause : SyntaxCause} (fits : cursor.Fits places)
    (unfinished : kind ≠ .finish) (fewer : cursor.ahead ≤ bound) (result : α) :
    Gives places bound (cursor.expect kind cause >>= fun after => .ok (result, after)) := by
  refine .expect fits unfinished ?_
  intro after fitsAfter fewerAfter
  exact .ok fitsAfter (by omega)

end Gives

/-! ## The descent -/

/-- With so much depth each part of the descent gives something for a row whose tokens ahead are few enough. Every
token ahead needs four levels at most: to read an item of an array, say, the descent goes through the items, the
expression and the primary until it moves on. -/
structure ReadsWithin (places : Position → Prop) (depth : Nat) : Prop where
  expression : ∀ cursor, cursor.Fits places → 4 * cursor.ahead + 2 ≤ depth →
    Gives places cursor.ahead (parseExpression depth cursor)
  stages : ∀ cursor, cursor.Fits places → 4 * cursor.ahead + 1 ≤ depth →
    Gives places (cursor.ahead + 1) (parseStages depth cursor)
  argumentList : ∀ filter cursor, cursor.Fits places → 4 * cursor.ahead + 1 ≤ depth →
    Gives places (cursor.ahead + 1) (parseArgumentList depth filter cursor)
  arguments : ∀ cursor, cursor.Fits places → 4 * cursor.ahead + 3 ≤ depth →
    Gives places cursor.ahead (parseArguments depth cursor)
  primary : ∀ cursor, cursor.Fits places → 4 * cursor.ahead + 1 ≤ depth →
    Gives places cursor.ahead (parsePrimary depth cursor)
  segments : ∀ cursor, cursor.Fits places → 4 * cursor.ahead + 1 ≤ depth →
    Gives places (cursor.ahead + 1) (parseSegments depth cursor)
  items : ∀ cursor, cursor.Fits places → 4 * cursor.ahead + 3 ≤ depth →
    Gives places (cursor.ahead + 1) (parseItems depth cursor)
  entries : ∀ cursor, cursor.Fits places → 4 * cursor.ahead + 2 ≤ depth →
    Gives places (cursor.ahead + 1) (parseEntries depth cursor)
  entry : ∀ cursor, cursor.Fits places → 4 * cursor.ahead + 1 ≤ depth →
    Gives places cursor.ahead (parseEntry depth cursor)

namespace ReadsWithin

variable {depth : Nat} {cursor : Cursor}

theorem expression_succ (deeper : ReadsWithin places depth) (fits : cursor.Fits places)
    (enough : 4 * cursor.ahead + 2 ≤ depth + 1) :
    Gives places cursor.ahead (parseExpression (depth + 1) cursor) := by
  rw [parseExpression]
  refine (deeper.primary cursor fits (by omega)).bind ?_
  intro root afterRoot rootFits rootFewer
  refine (deeper.stages afterRoot rootFits (by omega)).bind ?_
  intro stages afterStages stagesFit stagesFewer
  exact .ok stagesFit (by omega)

theorem stages_succ (deeper : ReadsWithin places depth) (fits : cursor.Fits places)
    (enough : 4 * cursor.ahead + 1 ≤ depth + 1) :
    Gives places (cursor.ahead + 1) (parseStages (depth + 1) cursor) := by
  rw [parseStages]
  by_cases piped : cursor.kind = .pipe
  · rw [if_pos piped]
    obtain ⟨nameFits, nameFewer⟩ := fits.advance (by rw [piped]; decide)
    refine .expect nameFits (by decide) ?_
    intro afterName fitsName fewerName
    refine (deeper.argumentList cursor.advance.current.value afterName fitsName (by omega)).bind ?_
    intro arguments afterArguments argumentsFit argumentsFewer
    refine (deeper.stages afterArguments argumentsFit (by omega)).bind ?_
    intro stages afterStages stagesFit stagesFewer
    exact .ok stagesFit (by omega)
  · rw [if_neg piped]
    exact .ok fits (by omega)

theorem argumentList_succ (deeper : ReadsWithin places depth) (filter : String) (fits : cursor.Fits places)
    (enough : 4 * cursor.ahead + 1 ≤ depth + 1) :
    Gives places (cursor.ahead + 1) (parseArgumentList (depth + 1) filter cursor) := by
  rw [parseArgumentList]
  by_cases opened : cursor.kind = .leftParen
  · rw [if_pos opened]
    obtain ⟨insideFits, insideFewer⟩ := fits.advance (by rw [opened]; decide)
    dsimp only
    by_cases closed : cursor.advance.kind = .rightParen
    · rw [if_pos closed]
      exact .closed insideFits (by decide) (by omega) _
    · rw [if_neg closed]
      refine (deeper.arguments cursor.advance insideFits (by omega)).bind ?_
      intro arguments afterArguments argumentsFit argumentsFewer
      exact .closed argumentsFit (by decide) (by omega) _
  · rw [if_neg opened]
    exact .ok fits (by omega)

theorem arguments_succ (deeper : ReadsWithin places depth) (fits : cursor.Fits places)
    (enough : 4 * cursor.ahead + 3 ≤ depth + 1) :
    Gives places cursor.ahead (parseArguments (depth + 1) cursor) := by
  rw [parseArguments]
  refine (deeper.expression cursor fits (by omega)).bind ?_
  intro first afterFirst firstFits firstFewer
  dsimp only
  by_cases another : afterFirst.kind = .comma
  · rw [if_pos another]
    obtain ⟨commaFits, commaFewer⟩ := firstFits.advance (by rw [another]; decide)
    refine (deeper.arguments afterFirst.advance commaFits (by omega)).bind ?_
    intro rest afterRest restFits restFewer
    dsimp only
    exact .ok restFits (by omega)
  · rw [if_neg another]
    exact .ok firstFits firstFewer

theorem primary_succ (deeper : ReadsWithin places depth) (fits : cursor.Fits places)
    (enough : 4 * cursor.ahead + 1 ≤ depth + 1) :
    Gives places cursor.ahead (parsePrimary (depth + 1) cursor) := by
  rw [parsePrimary]
  have next := fits.advance
  cases isKind : cursor.kind with
  | string =>
      obtain ⟨nextFits, nextFewer⟩ := next (by rw [isKind]; decide)
      exact .ok nextFits (by omega)
  | number =>
      obtain ⟨nextFits, nextFewer⟩ := next (by rw [isKind]; decide)
      dsimp only
      cases read : readNumber cursor.current.value with
      | error fault => exact isFaultAt_of_readNumber read
      | ok number => exact .ok nextFits (by omega)
  | identifier =>
      obtain ⟨nextFits, nextFewer⟩ := next (by rw [isKind]; decide)
      dsimp only
      cases keyword? cursor.current.value with
      | some value => exact .ok nextFits (by omega)
      | none =>
          refine (deeper.segments cursor.advance nextFits (by omega)).bind ?_
          intro segments after fitsAfter fewer
          dsimp only
          exact .ok fitsAfter (by omega)
  | leftBracket =>
      obtain ⟨nextFits, nextFewer⟩ := next (by rw [isKind]; decide)
      refine (deeper.items cursor.advance nextFits (by omega)).bind ?_
      intro items afterItems itemsFit itemsFewer
      exact .closed itemsFit (by decide) (by omega) _
  | leftBrace =>
      obtain ⟨nextFits, nextFewer⟩ := next (by rw [isKind]; decide)
      refine (deeper.entries cursor.advance nextFits (by omega)).bind ?_
      intro entries afterEntries entriesFit entriesFewer
      exact .closed entriesFit (by decide) (by omega) _
  | leftParen =>
      obtain ⟨nextFits, nextFewer⟩ := next (by rw [isKind]; decide)
      refine (deeper.expression cursor.advance nextFits (by omega)).bind ?_
      intro inner afterInner innerFits innerFewer
      exact .closed innerFits (by decide) (by omega) _
  | _ => exact .fault fits _

theorem segments_succ (deeper : ReadsWithin places depth) (fits : cursor.Fits places)
    (enough : 4 * cursor.ahead + 1 ≤ depth + 1) :
    Gives places (cursor.ahead + 1) (parseSegments (depth + 1) cursor) := by
  rw [parseSegments]
  have next := fits.advance
  cases isKind : cursor.kind with
  | dot =>
      obtain ⟨nameFits, nameFewer⟩ := next (by rw [isKind]; decide)
      have behind := nameFits.advance
      dsimp only
      cases isName : cursor.advance.kind with
      | identifier =>
          obtain ⟨behindFits, behindFewer⟩ := behind (by rw [isName]; decide)
          refine (deeper.segments cursor.advance.advance behindFits (by omega)).bind ?_
          intro segments after fitsAfter fewer
          dsimp only
          exact .ok fitsAfter (by omega)
      | number =>
          obtain ⟨behindFits, behindFewer⟩ := behind (by rw [isName]; decide)
          dsimp only
          cases numberProperties? cursor.advance.current.value with
          | none => exact .fault nameFits _
          | some properties =>
              refine (deeper.segments cursor.advance.advance behindFits (by omega)).bind ?_
              intro segments after fitsAfter fewer
              dsimp only
              exact .ok fitsAfter (by omega)
      | _ => exact .fault nameFits _
  | leftBracket =>
      obtain ⟨nextFits, nextFewer⟩ := next (by rw [isKind]; decide)
      refine (deeper.expression cursor.advance nextFits (by omega)).bind ?_
      intro key afterKey keyFits keyFewer
      refine .expect keyFits (by decide) ?_
      intro closed closedFits closedFewer
      refine (deeper.segments closed closedFits (by omega)).bind ?_
      intro segments after fitsAfter fewer
      dsimp only
      exact .ok fitsAfter (by omega)
  | _ => exact .ok fits (by omega)

theorem items_succ (deeper : ReadsWithin places depth) (fits : cursor.Fits places)
    (enough : 4 * cursor.ahead + 3 ≤ depth + 1) :
    Gives places (cursor.ahead + 1) (parseItems (depth + 1) cursor) := by
  rw [parseItems]
  by_cases closed : cursor.kind = .rightBracket
  · rw [if_pos closed]
    exact .ok fits (by omega)
  · rw [if_neg closed]
    refine (deeper.expression cursor fits (by omega)).bind ?_
    intro first afterFirst firstFits firstFewer
    dsimp only
    by_cases another : afterFirst.kind = .comma
    · rw [if_pos another]
      obtain ⟨commaFits, commaFewer⟩ := firstFits.advance (by rw [another]; decide)
      refine (deeper.items afterFirst.advance commaFits (by omega)).bind ?_
      intro rest afterRest restFits restFewer
      dsimp only
      exact .ok restFits (by omega)
    · rw [if_neg another]
      exact .ok firstFits (by omega)

theorem entries_succ (deeper : ReadsWithin places depth) (fits : cursor.Fits places)
    (enough : 4 * cursor.ahead + 2 ≤ depth + 1) :
    Gives places (cursor.ahead + 1) (parseEntries (depth + 1) cursor) := by
  rw [parseEntries]
  by_cases closed : cursor.kind = .rightBrace
  · rw [if_pos closed]
    exact .ok fits (by omega)
  · rw [if_neg closed]
    refine (deeper.entry cursor fits (by omega)).bind ?_
    intro entry afterEntry entryFits entryFewer
    dsimp only
    by_cases another : afterEntry.kind = .comma
    · rw [if_pos another]
      obtain ⟨commaFits, commaFewer⟩ := entryFits.advance (by rw [another]; decide)
      refine (deeper.entries afterEntry.advance commaFits (by omega)).bind ?_
      intro rest afterRest restFits restFewer
      dsimp only
      exact .ok restFits (by omega)
    · rw [if_neg another]
      exact .ok entryFits (by omega)

theorem entry_succ (deeper : ReadsWithin places depth) (fits : cursor.Fits places)
    (enough : 4 * cursor.ahead + 1 ≤ depth + 1) :
    Gives places cursor.ahead (parseEntry (depth + 1) cursor) := by
  rw [parseEntry]
  by_cases isKey : cursor.kind = .identifier ∨ cursor.kind = .string
  · rw [if_pos isKey]
    have unfinished : cursor.kind ≠ .finish := by
      rcases isKey with isName | isString
      · rw [isName]
        decide
      · rw [isString]
        decide
    obtain ⟨keyFits, keyFewer⟩ := fits.advance unfinished
    dsimp only
    by_cases spelled : cursor.advance.kind = .colon
    · rw [if_pos spelled]
      obtain ⟨colonFits, colonFewer⟩ := keyFits.advance (by rw [spelled]; decide)
      refine (deeper.expression cursor.advance.advance colonFits (by omega)).bind ?_
      intro value after fitsAfter fewer
      dsimp only
      exact .ok fitsAfter (by omega)
    · rw [if_neg spelled]
      by_cases named : cursor.kind = .identifier
      · rw [if_pos named]
        exact .ok keyFits (by omega)
      · rw [if_neg named]
        exact .fault keyFits _
  · rw [if_neg isKey]
    exact .fault fits _

end ReadsWithin

theorem readsWithin (places : Position → Prop) : ∀ depth, ReadsWithin places depth
  | 0 =>
      { expression := fun _ _ _ => by omega
        stages := fun _ _ _ => by omega
        argumentList := fun _ _ _ _ => by omega
        arguments := fun _ _ _ => by omega
        primary := fun _ _ _ => by omega
        segments := fun _ _ _ => by omega
        items := fun _ _ _ => by omega
        entries := fun _ _ _ => by omega
        entry := fun _ _ _ => by omega }
  | depth + 1 =>
      have deeper := readsWithin places depth
      { expression := fun _ => deeper.expression_succ
        stages := fun _ => deeper.stages_succ
        argumentList := fun filter _ => deeper.argumentList_succ filter
        arguments := fun _ => deeper.arguments_succ
        primary := fun _ => deeper.primary_succ
        segments := fun _ => deeper.segments_succ
        items := fun _ => deeper.items_succ
        entries := fun _ => deeper.entries_succ
        entry := fun _ => deeper.entry_succ }

/-- The words of an expression fail to make one at the place of a word, or for a numeral. The depth given at the
start is never used up. -/
theorem isFaultAt_of_ofTokens {row : List Token} {finish : Token} (isFinish : finish.kind = .finish)
    (placed : ∀ token ∈ row ++ [finish], places token.place) {fault : Fault}
    (failed : Pipeline.ofTokens (row ++ [finish]) = .error fault) : IsFaultAt places fault := by
  cases isRow : row ++ [finish] with
  | nil => exact absurd isRow (List.append_ne_nil_of_right_ne_nil row (List.cons_ne_nil _ _))
  | cons first rest =>
      rw [isRow] at placed failed
      have fits : (⟨first, rest⟩ : Cursor).Fits places := ⟨placed, row, finish, isRow.symm, isFinish⟩
      have reads := readsWithin places (sufficientDepth (rest.length + 1))
      have gives := reads.expression ⟨first, rest⟩ fits
        (by unfold Cursor.ahead sufficientDepth; dsimp only; omega)
      rw [Pipeline.ofTokens] at failed
      dsimp only at failed
      by_cases empty : (⟨first, rest⟩ : Cursor).kind = .finish
      · rw [if_pos empty] at failed
        cases failed
        exact fits.fault _
      · rw [if_neg empty] at failed
        rcases isRead : parseExpression (sufficientDepth (rest.length + 1)) ⟨first, rest⟩ with
          fault' | ⟨pipeline, after⟩
        · rw [isRead] at failed gives
          cases failed
          exact gives
        · rw [isRead] at failed gives
          change (if after.kind = .finish then Except.ok pipeline else .error (after.fault _)) = _ at failed
          by_cases atEnd : after.kind = .finish
          · rw [if_pos atEnd] at failed
            cases failed
          · rw [if_neg atEnd] at failed
            cases failed
            exact gives.1.fault _

end Folio.Template
