import Folio.Proofs.Template.Cutting
import Folio.Proofs.Template.Rejection
import Mathlib.Data.List.Induction
import Mathlib.Data.List.TakeWhile

/-!
Contract: where errors stand in a template text.

Owns: what offset, line and column of a place in a text are, told by the text in front of it alone; that moving
along a text keeps them so; and that reading a template fails at a place of its text, or at a numeral that stands
for no number.

Does not own: texts in which a template stands behind something else.
-/

namespace Folio.Template

open Folio.Text

/-! ## Places of a text -/

/-- The index just behind the last line break of a text, or nought. -/
def lineStart (chars : List Char) : Nat :=
  chars.length - (chars.reverse.takeWhile (· != '\n')).length

/-- An offset in the text, with the line and the column that it has there. Lines and columns count from one, and
only a line break ends a line. -/
structure Position.IsIn (place : Position) (text : String) : Prop where
  notNegative : 0 ≤ place.offset
  inside : place.offset ≤ text.length
  line : place.line = 1 + (text.toList.take place.offset.toNat).count '\n'
  column : place.column = place.offset - lineStart (text.toList.take place.offset.toNat) + 1

theorem lineStart_break (front : List Char) : lineStart (front ++ ['\n']) = front.length + 1 := by
  simp [lineStart]

theorem lineStart_within {char : Char} (within : char ≠ '\n') (front : List Char) :
    lineStart (front ++ [char]) = lineStart front := by
  have goesOn : (char != '\n') = true := bne_iff_ne.2 within
  simp [lineStart, goesOn]

theorem lineStart_unbroken {front : List Char} (unbroken : '\n' ∉ front) : lineStart front = 0 := by
  have whole : front.reverse.takeWhile (· != '\n') = front.reverse := by
    rw [List.takeWhile_eq_self_iff]
    intro char member
    exact bne_iff_ne.2 fun isBreak => unbroken (isBreak ▸ List.mem_reverse.1 member)
  rw [lineStart, whole, List.length_reverse, Nat.sub_self]

/-- Where a text has got to from its start, told without going through it. -/
def placeBehind (front : List Char) : Position :=
  ⟨front.length, 1 + front.count '\n', front.length - lineStart front + 1⟩

/-- Where a text that starts at a place has got to: on the line of the start the column goes on from there, and on
every other line it counts from one. -/
def Position.counted (start : Position) (front : List Char) : Position :=
  ⟨start.offset + front.length, start.line + front.count '\n',
    if '\n' ∈ front then front.length - lineStart front + 1 else start.column + front.length⟩

/-- Each character moves the place to what it is behind one character more. -/
theorem counted_after (start : Position) (front : List Char) (char : Char) :
    (start.counted front).after char = start.counted (front ++ [char]) := by
  unfold Position.after Position.counted
  dsimp only
  by_cases isBreak : char = '\n'
  · subst isBreak
    rw [if_pos rfl, if_pos (List.mem_append_right front (List.mem_singleton_self '\n')), lineStart_break,
      List.count_append, List.count_singleton_self, List.length_append, List.length_singleton, Position.mk.injEq]
    omega
  · have unbroken : '\n' ∉ [char] := fun inside => isBreak (List.mem_singleton.1 inside).symm
    have sameBreak : '\n' ∈ front ++ [char] ↔ '\n' ∈ front := by
      rw [List.mem_append, or_iff_left unbroken]
    rw [if_neg isBreak, lineStart_within isBreak, List.count_append, List.count_eq_zero.2 unbroken,
      List.length_append, List.length_singleton, Position.mk.injEq, if_congr sameBreak rfl rfl]
    split
    · omega
    · omega

theorem past_eq_counted (start : Position) (front : List Char) : start.past front = start.counted front := by
  -- The place moves along with the last character, so the text grows at its end.
  induction front using List.reverseRecOn with
  | nil => simp [Position.counted]
  | append_singleton front char inductionHypothesis =>
      rw [Position.past_append, inductionHypothesis, ← counted_after]
      rfl

theorem past_start (front : List Char) : Position.start.past front = placeBehind front := by
  rw [past_eq_counted, Position.counted, placeBehind, Position.start, Position.mk.injEq]
  refine ⟨Int.zero_add _, rfl, ?_⟩
  split
  · rfl
  · rename_i unbroken
    rw [lineStart_unbroken unbroken]
    dsimp only
    omega

theorem offset_past (place : Position) (chars : List Char) :
    (place.past chars).offset = place.offset + chars.length := by
  induction chars generalizing place with
  | nil => simp
  | cons char chars inductionHypothesis =>
      have next : (place.after char).offset = place.offset + 1 := by
        unfold Position.after
        split <;> rfl
      rw [Position.past_cons, inductionHypothesis, next, List.length_cons]
      push_cast
      omega

/-- A place that a text has behind a part of it. -/
def Within (place : Position) (chars : List Char) (spot : Position) : Prop :=
  ∃ front back, chars = front ++ back ∧ spot = place.past front

namespace Within

variable {place spot : Position} {front back : List Char}

theorem start (place : Position) (chars : List Char) : Within place chars place :=
  ⟨[], chars, rfl, rfl⟩

/-- A place behind a part and more of the text. -/
theorem behind (front : List Char) (within : Within (place.past front) back spot) :
    Within place (front ++ back) spot := by
  obtain ⟨more, rest, rfl, rfl⟩ := within
  exact ⟨front ++ more, rest, (List.append_assoc _ _ _).symm, (Position.past_append _ _ _).symm⟩

/-- A place in a part in front. -/
theorem append (within : Within place front spot) (back : List Char) : Within place (front ++ back) spot := by
  obtain ⟨more, rest, rfl, rfl⟩ := within
  exact ⟨more, rest ++ back, List.append_assoc _ _ _, rfl⟩

theorem isIn {text : String} (within : Within .start text.toList spot) : spot.IsIn text := by
  obtain ⟨front, back, isText, rfl⟩ := within
  have size : text.length = front.length + back.length := by
    rw [← String.length_toList, isText, List.length_append]
  have taken : text.toList.take (placeBehind front).offset.toNat = front := by
    rw [isText]
    exact List.take_left' rfl
  rw [past_start]
  refine ⟨Int.natCast_nonneg _, ?_, ?_, ?_⟩
  · change (front.length : Int) ≤ text.length
    omega
  · rw [taken]
    rfl
  · rw [taken]
    rfl

end Within

/-! ## Words -/

section Words

variable {previous : Option TokenKind} {place : Position} {chars : List Char}

/-- The words of an expression stand in its text. -/
theorem Lexes.within {tokens : List Token} (lexed : Lexes previous place chars tokens) :
    ∀ token ∈ tokens, Within place chars token.place := by
  induction lexed with
  | finish =>
      intro token member
      obtain rfl := List.mem_singleton.1 member
      exact .start _ _
  | @blank previous place char rest tokens _ _ inductionHypothesis =>
      intro token member
      exact Within.behind [char] (inductionHypothesis token member)
  | @word previous place kind char more rest value tokens _ _ inductionHypothesis =>
      intro token member
      rcases List.mem_cons.1 member with rfl | member
      · exact .start _ _
      · exact Within.behind (char :: more) (inductionHypothesis token member)

/-- No two words of a text stand at the same place. -/
theorem Lexes.apart {tokens : List Token} (lexed : Lexes previous place chars tokens) :
    tokens.Pairwise fun first second => first.place.offset < second.place.offset := by
  induction lexed with
  | finish => exact List.pairwise_singleton _ _
  | blank _ _ inductionHypothesis => exact inductionHypothesis
  | @word previous place kind char more rest value tokens _ lexed inductionHypothesis =>
      refine List.pairwise_cons.2 ⟨fun token member => ?_, inductionHypothesis⟩
      obtain ⟨front, back, -, isPlace⟩ := lexed.within token member
      have behind : token.place.offset = ((place.past (char :: more)).past front).offset :=
        congrArg Position.offset isPlace
      rw [offset_past, offset_past, List.length_cons] at behind
      change place.offset < token.place.offset
      omega

/-- What is no word of an expression stands in its text as well. -/
theorem within_of_words_error {error : SyntaxError} (failed : words previous place chars = .error error) :
    Within place chars error.place := by
  fun_induction words previous place chars generalizing error with
  | case1 => cases failed
  | case2 previous place char rest isBlank inductionHypothesis =>
      exact Within.behind [char] (inductionHypothesis failed)
  | case3 =>
      cases failed
      exact .start _ _
  | case4 previous place char rest kind more value isWord error' laterFailed inductionHypothesis =>
      cases failed
      rcases front_cases previous char rest with
        ⟨isBlank, -⟩ | ⟨_, isFault, -⟩ | ⟨_, _, _, after, isRest, isWord', -⟩
      · cases isWord.symm.trans isBlank
      · cases isWord.symm.trans isFault
      · cases isWord.symm.trans isWord'
        subst isRest
        rw [List.drop_left] at inductionHypothesis laterFailed
        exact Within.behind (char :: more) (inductionHypothesis laterFailed)
  | case5 => cases failed

/-- Reading an expression fails at a place of its text, or at a numeral. -/
theorem isFaultAt_of_readAt {text : String} {fault : Fault}
    (failed : Pipeline.readAt place text = .error fault) : IsFaultAt (Within place text.toList) fault := by
  unfold Pipeline.readAt expressionTokens at failed
  cases found : words none place text.toList with
  | error error =>
      rw [found] at failed
      cases failed
      exact .inl ⟨error, rfl, within_of_words_error found⟩
  | ok tokens =>
      rw [found] at failed
      have lexed := lexes_of_words found
      obtain ⟨row, finish, rfl, isFinish, -⟩ := lexed.ends
      exact isFaultAt_of_ofTokens isFinish lexed.within failed

end Words

/-! ## Templates -/

theorem append_spanLiteral (chars : List Char) : (spanLiteral chars).1 ++ (spanLiteral chars).2 = chars := by
  fun_induction spanLiteral chars with
  | case1 => rfl
  | case2 => rfl
  | case3 char rest _ inductionHypothesis => rw [List.cons_append, inductionHypothesis]

section Templates

variable {place : Position} {chars : List Char}

/-- The text of a token stands in the text of the template, where the token says. -/
theorem within_of_pieces {tokens : List Token} (cut : pieces place chars = .ok tokens) :
    ∀ token ∈ tokens, ∀ spot, Within token.place token.value.toList spot → Within place chars spot := by
  fun_induction pieces place chars generalizing tokens with
  | case1 place =>
      cases cut
      intro token member spot within
      obtain rfl := List.mem_singleton.1 member
      exact within
  | case2 => cases cut
  | case3 => cases cut
  | case4 place rest content after found inner later laterCut =>
      rename_i inductionHypothesis
      cases cut
      have whole := append_of_spanExpression found
      intro token member spot within
      rcases List.mem_cons.1 member with rfl | member
      · rw [String.toList_ofList] at within
        have inText := (within.append ('}' :: '}' :: after)).behind ['{', '{']
        rw [whole] at inText
        exact inText
      · have isLater := inductionHypothesis laterCut token member spot within
        have inText := ((isLater.behind ['}', '}']).behind content).behind
          ['{', '{']
        rw [← whole]
        exact inText
  | case5 => cases cut
  | case6 place char rest notOpening text later laterCut =>
      rename_i inductionHypothesis
      cases cut
      intro token member spot within
      rcases List.mem_cons.1 member with rfl | member
      · rw [String.toList_ofList] at within
        have inText := within.append (spanLiteral rest).2
        rw [List.cons_append, append_spanLiteral] at inText
        exact inText
      · have inText := (inductionHypothesis laterCut token member spot within).behind _
        rw [List.cons_append, append_spanLiteral] at inText
        exact inText

/-- An expression that does not end is reported where it opens. -/
theorem within_of_pieces_error {error : SyntaxError} (failed : pieces place chars = .error error) :
    Within place chars error.place := by
  fun_induction pieces place chars generalizing error with
  | case1 => cases failed
  | case2 =>
      cases failed
      exact .start _ _
  | case3 place rest content after found inner error' laterFailed =>
      rename_i inductionHypothesis
      cases failed
      have inText := (((inductionHypothesis laterFailed).behind ['}', '}']).behind content).behind ['{', '{']
      rw [← append_of_spanExpression found]
      exact inText
  | case4 => cases failed
  | case5 place char rest notOpening text error' laterFailed =>
      rename_i inductionHypothesis
      cases failed
      have inText := (inductionHypothesis laterFailed).behind _
      rw [List.cons_append, append_spanLiteral] at inText
      exact inText
  | case6 => cases failed

/-- A token is refused for the expression that it holds, or because it is no part of a template. -/
def Token.IsRefused (token : Token) (fault : Fault) : Prop :=
  Pipeline.readAt token.place token.value = .error fault ∨
    fault = .malformed (.of (.unexpectedKind token.kind) token.place)

theorem nodesOfTokens_eq_error {tokens : List Token} {fault : Fault}
    (failed : nodesOfTokens tokens = .error fault) : ∃ token ∈ tokens, token.IsRefused fault := by
  induction tokens with
  | nil => cases failed
  | cons token tokens inductionHypothesis =>
      have fromLater : nodesOfTokens tokens = .error fault → ∃ other ∈ token :: tokens, other.IsRefused fault := by
        intro failed
        obtain ⟨other, member, isRefused⟩ := inductionHypothesis failed
        exact ⟨other, List.mem_cons_of_mem token member, isRefused⟩
      rw [nodesOfTokens] at failed
      split at failed
      · rcases bind_eq_error.1 failed with failed | ⟨nodes, -, made⟩
        · exact fromLater failed
        · cases made
      · rcases bind_eq_error.1 failed with failed | ⟨node, -, failed⟩
        · unfold Node.ofExpression at failed
          split at failed
          · cases failed
          · rename_i unread
            cases failed
            exact ⟨token, List.mem_cons_self, .inl unread⟩
        · rcases bind_eq_error.1 failed with failed | ⟨nodes, -, made⟩
          · exact fromLater failed
          · cases made
      · cases failed
      · cases failed
        exact ⟨token, List.mem_cons_self, .inr rfl⟩

/-- A template is refused at a place of its text, or for a numeral that stands for no number. -/
theorem isFaultAt_of_parseTemplate {text : String} {fault : Fault} (failed : parseTemplate text = .error fault) :
    IsFaultAt (Within .start text.toList) fault := by
  unfold parseTemplate templateTokens at failed
  cases cut : pieces .start text.toList with
  | error error =>
      rw [cut] at failed
      cases failed
      exact .inl ⟨error, rfl, within_of_pieces_error cut⟩
  | ok tokens =>
      rw [cut] at failed
      obtain ⟨token, member, unread | rfl⟩ := nodesOfTokens_eq_error failed
      · exact (isFaultAt_of_readAt unread).mono (within_of_pieces cut token member)
      · exact .inl ⟨_, rfl, within_of_pieces cut token member _ (.start _ _)⟩

end Templates

end Folio.Template
