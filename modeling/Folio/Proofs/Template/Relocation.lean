import Folio.Proofs.Template.Lexing
import Folio.Template.Node

/-!
Contract: reading the same text at another place.

Owns: changes of places, what they do to tokens, trees and errors, and the law that reading an
expression commutes with them. A text that is read somewhere else gives the same tree with other
places in it, or fails for the same cause at the other place.

Does not own: where a text is read.
-/

namespace Folio.Template

open Folio.Text Folio.Number

/-! ## Changes of places -/

/-- A change of places. Line and column do not depend on the offset, which the stages of a tree do not
keep. -/
structure Relocation where
  offset : Int → Int
  line : Int → Int → Int
  column : Int → Int → Int

namespace Relocation

/-- Leaves nothing of a place. -/
def forget : Relocation :=
  ⟨fun _ => 0, fun _ _ => 0, fun _ _ => 0⟩

def apply (move : Relocation) (place : Position) : Position :=
  ⟨move.offset place.offset, move.line place.line place.column,
    move.column place.line place.column⟩

end Relocation

def Token.relocate (move : Relocation) (token : Token) : Token :=
  { token with place := move.apply token.place }

def SyntaxError.relocate (move : Relocation) (error : SyntaxError) : SyntaxError :=
  { error with place := move.apply error.place }

def relocateFault (move : Relocation) : Fault → Fault
  | .malformed error => .malformed (error.relocate move)
  | fault => fault

mutual

def Expr.relocate (move : Relocation) : Expr → Expr
  | .literal value => .literal value
  | .path head segments => .path head (relocateSegments move segments)
  | .array items => .array (relocateExprs move items)
  | .object entries => .object (relocateEntries move entries)
  | .pipeline root stages => .pipeline (root.relocate move) (relocateStages move stages)

def relocateExprs (move : Relocation) : List Expr → List Expr
  | [] => []
  | expr :: exprs => expr.relocate move :: relocateExprs move exprs

def relocateEntries (move : Relocation) : List (String × Expr) → List (String × Expr)
  | [] => []
  | (key, value) :: entries => (key, value.relocate move) :: relocateEntries move entries

def relocateSegments (move : Relocation) : List Segment → List Segment
  | [] => []
  | .property name :: segments => .property name :: relocateSegments move segments
  | .index key :: segments => .index (key.relocate move) :: relocateSegments move segments

def relocateStages (move : Relocation) : List Stage → List Stage
  | [] => []
  | .mk name arguments line column :: stages =>
      .mk name (relocateExprs move arguments) (move.line line column) (move.column line column) ::
        relocateStages move stages

end

def Pipeline.relocate (move : Relocation) (pipeline : Pipeline) : Pipeline :=
  ⟨pipeline.root.relocate move, relocateStages move pipeline.stages⟩

/-- The tree of a pipeline without the places of its filters. -/
def Pipeline.unplaced (pipeline : Pipeline) : Pipeline :=
  pipeline.relocate .forget

/-- A whole expression inside another one is moved like any other part of it. -/
theorem Pipeline.toExpr_relocate (move : Relocation) (pipeline : Pipeline) :
    (pipeline.relocate move).toExpr = pipeline.toExpr.relocate move := by
  obtain ⟨root, stages⟩ := pipeline
  cases stages with
  | nil => rfl
  | cons stage stages =>
      obtain ⟨name, arguments, line, column⟩ := stage
      rfl

/-- Properties have no places. -/
theorem relocateSegments_properties (move : Relocation) (names : List String)
    (segments : List Segment) :
    relocateSegments move (names.map .property ++ segments) =
      names.map .property ++ relocateSegments move segments := by
  induction names with
  | nil => rfl
  | cons name names inductionHypothesis =>
      simp only [List.map_cons, List.cons_append, relocateSegments, inductionHypothesis]

/-- A numeral that cannot be read has no place. -/
theorem relocateFault_of_readNumber (move : Relocation) {numeral : String} {fault : Fault}
    (refused : readNumber numeral = .error fault) : relocateFault move fault = fault := by
  unfold readNumber at refused
  split at refused
  all_goals
    split at refused
    · cases refused
    · cases refused
      rfl

/-! ## Cursors -/

def Cursor.relocate (move : Relocation) (cursor : Cursor) : Cursor :=
  ⟨cursor.current.relocate move, cursor.following.map (Token.relocate move)⟩

@[simp] theorem Cursor.relocate_kind (move : Relocation) (cursor : Cursor) :
    (cursor.relocate move).kind = cursor.kind := rfl

@[simp] theorem Cursor.relocate_value (move : Relocation) (cursor : Cursor) :
    (cursor.relocate move).current.value = cursor.current.value := rfl

@[simp] theorem Cursor.relocate_advance (move : Relocation) (cursor : Cursor) :
    (cursor.relocate move).advance = cursor.advance.relocate move := by
  obtain ⟨current, following⟩ := cursor
  by_cases finished : current.kind = .finish
  · simp [Cursor.advance, Cursor.kind, Cursor.relocate, Token.relocate, finished]
  · cases following with
    | nil => simp [Cursor.advance, Cursor.kind, Cursor.relocate, Token.relocate, finished]
    | cons next rest =>
        simp [Cursor.advance, Cursor.kind, Cursor.relocate, Token.relocate, finished]

theorem Cursor.relocate_fault (move : Relocation) (cursor : Cursor) (cause : SyntaxCause) :
    (cursor.relocate move).fault cause = relocateFault move (cursor.fault cause) := rfl

/-! ## Outcomes -/

/-- What a reading gives, moved: its value, the cursor behind it, or its fault. -/
def Relocation.outcome {α : Type} (move : Relocation) (value : α → α) :
    Except Fault (α × Cursor) → Except Fault (α × Cursor)
  | .ok (result, cursor) => .ok (value result, cursor.relocate move)
  | .error fault => .error (relocateFault move fault)

/-- One reading after the other is moved if both are. -/
theorem Relocation.outcome_bind {α β : Type} {move : Relocation} {value : α → α} {value' : β → β}
    {first moved : Except Fault (α × Cursor)} {next next' : α × Cursor → Except Fault (β × Cursor)}
    (firstMoved : moved = move.outcome value first)
    (nextMoved : ∀ result cursor,
      next' (value result, cursor.relocate move) = move.outcome value' (next (result, cursor))) :
    (moved >>= next') = move.outcome value' (first >>= next) := by
  subst firstMoved
  rcases first with fault | ⟨result, cursor⟩
  · rfl
  · exact nextMoved result cursor

/-- The same behind a cursor that moves past one token or fails at it. -/
theorem Relocation.outcome_expect {β : Type} {move : Relocation} {value : β → β} (cursor : Cursor)
    (kind : TokenKind) (cause : SyntaxCause) {next next' : Cursor → Except Fault (β × Cursor)}
    (nextMoved : ∀ after, next' (after.relocate move) = move.outcome value (next after)) :
    ((cursor.relocate move).expect kind cause >>= next') =
      move.outcome value (cursor.expect kind cause >>= next) := by
  unfold Cursor.expect
  rw [Cursor.relocate_kind]
  by_cases found : cursor.kind = kind
  · rw [if_pos found, if_pos found, Cursor.relocate_advance]
    exact nextMoved cursor.advance
  · rw [if_neg found, if_neg found, Cursor.relocate_fault]
    rfl

/-! ## Reading moved tokens -/

/-- Reading with so much depth commutes with a change of places. -/
structure ReadsRelocated (move : Relocation) (depth : Nat) : Prop where
  expression : ∀ cursor, parseExpression depth (cursor.relocate move) =
    move.outcome (Pipeline.relocate move) (parseExpression depth cursor)
  stages : ∀ cursor, parseStages depth (cursor.relocate move) =
    move.outcome (relocateStages move) (parseStages depth cursor)
  argumentList : ∀ filter cursor, parseArgumentList depth filter (cursor.relocate move) =
    move.outcome (relocateExprs move) (parseArgumentList depth filter cursor)
  arguments : ∀ cursor, parseArguments depth (cursor.relocate move) =
    move.outcome (relocateExprs move) (parseArguments depth cursor)
  primary : ∀ cursor, parsePrimary depth (cursor.relocate move) =
    move.outcome (Expr.relocate move) (parsePrimary depth cursor)
  segments : ∀ cursor, parseSegments depth (cursor.relocate move) =
    move.outcome (relocateSegments move) (parseSegments depth cursor)
  items : ∀ cursor, parseItems depth (cursor.relocate move) =
    move.outcome (relocateExprs move) (parseItems depth cursor)
  entries : ∀ cursor, parseEntries depth (cursor.relocate move) =
    move.outcome (relocateEntries move) (parseEntries depth cursor)
  entry : ∀ cursor, parseEntry depth (cursor.relocate move) =
    move.outcome (fun entry => (entry.1, entry.2.relocate move)) (parseEntry depth cursor)

namespace ReadsRelocated

variable {move : Relocation} {depth : Nat}

theorem expression_succ (deeper : ReadsRelocated move depth) (cursor : Cursor) :
    parseExpression (depth + 1) (cursor.relocate move) =
      move.outcome (Pipeline.relocate move) (parseExpression (depth + 1) cursor) := by
  rw [parseExpression, parseExpression]
  refine Relocation.outcome_bind (deeper.primary cursor) ?_
  intro root afterRoot
  refine Relocation.outcome_bind (deeper.stages afterRoot) ?_
  intro stages afterStages
  rfl

theorem stages_succ (deeper : ReadsRelocated move depth) (cursor : Cursor) :
    parseStages (depth + 1) (cursor.relocate move) =
      move.outcome (relocateStages move) (parseStages (depth + 1) cursor) := by
  rw [parseStages, parseStages, Cursor.relocate_kind]
  by_cases piped : cursor.kind = .pipe
  · rw [if_pos piped, if_pos piped, Cursor.relocate_advance]
    refine Relocation.outcome_expect cursor.advance _ _ ?_
    intro afterName
    refine Relocation.outcome_bind (deeper.argumentList cursor.advance.current.value afterName) ?_
    intro arguments afterArguments
    refine Relocation.outcome_bind (deeper.stages afterArguments) ?_
    intro stages afterStages
    rfl
  · rw [if_neg piped, if_neg piped]
    rfl

theorem argumentList_succ (deeper : ReadsRelocated move depth) (filter : String) (cursor : Cursor) :
    parseArgumentList (depth + 1) filter (cursor.relocate move) =
      move.outcome (relocateExprs move) (parseArgumentList (depth + 1) filter cursor) := by
  rw [parseArgumentList, parseArgumentList, Cursor.relocate_kind]
  by_cases opened : cursor.kind = .leftParen
  · rw [if_pos opened, if_pos opened, Cursor.relocate_advance]
    dsimp only
    rw [Cursor.relocate_kind]
    by_cases closed : cursor.advance.kind = .rightParen
    · rw [if_pos closed, if_pos closed]
      refine Relocation.outcome_expect cursor.advance _ _ ?_
      intro after
      rfl
    · rw [if_neg closed, if_neg closed]
      refine Relocation.outcome_bind (deeper.arguments cursor.advance) ?_
      intro arguments afterArguments
      refine Relocation.outcome_expect afterArguments _ _ ?_
      intro after
      rfl
  · rw [if_neg opened, if_neg opened]
    rfl

theorem arguments_succ (deeper : ReadsRelocated move depth) (cursor : Cursor) :
    parseArguments (depth + 1) (cursor.relocate move) =
      move.outcome (relocateExprs move) (parseArguments (depth + 1) cursor) := by
  rw [parseArguments, parseArguments]
  refine Relocation.outcome_bind (deeper.expression cursor) ?_
  intro first afterFirst
  dsimp only
  rw [Cursor.relocate_kind, Pipeline.toExpr_relocate]
  by_cases another : afterFirst.kind = .comma
  · rw [if_pos another, if_pos another, Cursor.relocate_advance]
    refine Relocation.outcome_bind (deeper.arguments afterFirst.advance) ?_
    intro rest afterRest
    rfl
  · rw [if_neg another, if_neg another]
    rfl

theorem primary_succ (deeper : ReadsRelocated move depth) (cursor : Cursor) :
    parsePrimary (depth + 1) (cursor.relocate move) =
      move.outcome (Expr.relocate move) (parsePrimary (depth + 1) cursor) := by
  rw [parsePrimary, parsePrimary, Cursor.relocate_kind, Cursor.relocate_value,
    Cursor.relocate_advance]
  cases cursor.kind with
  | number =>
      cases read : readNumber cursor.current.value with
      | error fault =>
          refine congrArg Except.error ?_
          exact (relocateFault_of_readNumber move read).symm
      | ok number => rfl
  | identifier =>
      cases keyword? cursor.current.value with
      | some value => rfl
      | none =>
          refine Relocation.outcome_bind (deeper.segments cursor.advance) ?_
          intro segments after
          rfl
  | leftBracket =>
      refine Relocation.outcome_bind (deeper.items cursor.advance) ?_
      intro items afterItems
      refine Relocation.outcome_expect afterItems _ _ ?_
      intro after
      rfl
  | leftBrace =>
      refine Relocation.outcome_bind (deeper.entries cursor.advance) ?_
      intro entries afterEntries
      refine Relocation.outcome_expect afterEntries _ _ ?_
      intro after
      rfl
  | leftParen =>
      refine Relocation.outcome_bind (deeper.expression cursor.advance) ?_
      intro inner afterInner
      refine Relocation.outcome_expect afterInner _ _ ?_
      intro after
      rw [Pipeline.toExpr_relocate]
      rfl
  | _ => rfl

theorem segments_succ (deeper : ReadsRelocated move depth) (cursor : Cursor) :
    parseSegments (depth + 1) (cursor.relocate move) =
      move.outcome (relocateSegments move) (parseSegments (depth + 1) cursor) := by
  rw [parseSegments, parseSegments, Cursor.relocate_kind, Cursor.relocate_advance]
  cases cursor.kind with
  | dot =>
      dsimp only
      rw [Cursor.relocate_kind, Cursor.relocate_value, Cursor.relocate_advance]
      cases cursor.advance.kind with
      | identifier =>
          refine Relocation.outcome_bind (deeper.segments cursor.advance.advance) ?_
          intro segments after
          rfl
      | number =>
          dsimp only
          unfold numberProperties?
          by_cases negative : cursor.advance.current.value.toList.head? == some '-'
          · rw [if_pos negative]
            rfl
          · rw [if_neg negative]
            refine Relocation.outcome_bind (deeper.segments cursor.advance.advance) ?_
            intro segments after
            refine congrArg (fun segments => Except.ok (segments, after.relocate move)) ?_
            exact (relocateSegments_properties move _ segments).symm
      | _ => rfl
  | leftBracket =>
      refine Relocation.outcome_bind (deeper.expression cursor.advance) ?_
      intro key afterKey
      refine Relocation.outcome_expect afterKey _ _ ?_
      intro closed
      refine Relocation.outcome_bind (deeper.segments closed) ?_
      intro segments after
      dsimp only
      rw [Pipeline.toExpr_relocate]
      rfl
  | _ => rfl

theorem items_succ (deeper : ReadsRelocated move depth) (cursor : Cursor) :
    parseItems (depth + 1) (cursor.relocate move) =
      move.outcome (relocateExprs move) (parseItems (depth + 1) cursor) := by
  rw [parseItems, parseItems, Cursor.relocate_kind]
  by_cases closed : cursor.kind = .rightBracket
  · rw [if_pos closed, if_pos closed]
    rfl
  · rw [if_neg closed, if_neg closed]
    refine Relocation.outcome_bind (deeper.expression cursor) ?_
    intro first afterFirst
    dsimp only
    rw [Cursor.relocate_kind, Pipeline.toExpr_relocate]
    by_cases another : afterFirst.kind = .comma
    · rw [if_pos another, if_pos another, Cursor.relocate_advance]
      refine Relocation.outcome_bind (deeper.items afterFirst.advance) ?_
      intro rest afterRest
      rfl
    · rw [if_neg another, if_neg another]
      rfl

theorem entries_succ (deeper : ReadsRelocated move depth) (cursor : Cursor) :
    parseEntries (depth + 1) (cursor.relocate move) =
      move.outcome (relocateEntries move) (parseEntries (depth + 1) cursor) := by
  rw [parseEntries, parseEntries, Cursor.relocate_kind]
  by_cases closed : cursor.kind = .rightBrace
  · rw [if_pos closed, if_pos closed]
    rfl
  · rw [if_neg closed, if_neg closed]
    refine Relocation.outcome_bind (deeper.entry cursor) ?_
    intro entry afterEntry
    dsimp only
    rw [Cursor.relocate_kind]
    by_cases another : afterEntry.kind = .comma
    · rw [if_pos another, if_pos another, Cursor.relocate_advance]
      refine Relocation.outcome_bind (deeper.entries afterEntry.advance) ?_
      intro rest afterRest
      rfl
    · rw [if_neg another, if_neg another]
      rfl

theorem entry_succ (deeper : ReadsRelocated move depth) (cursor : Cursor) :
    parseEntry (depth + 1) (cursor.relocate move) =
      move.outcome (fun entry => (entry.1, entry.2.relocate move))
        (parseEntry (depth + 1) cursor) := by
  rw [parseEntry, parseEntry, Cursor.relocate_kind]
  by_cases isKey : cursor.kind = .identifier ∨ cursor.kind = .string
  · rw [if_pos isKey, if_pos isKey, Cursor.relocate_advance, Cursor.relocate_value]
    dsimp only
    rw [Cursor.relocate_kind]
    by_cases spelled : cursor.advance.kind = .colon
    · rw [if_pos spelled, if_pos spelled, Cursor.relocate_advance]
      refine Relocation.outcome_bind (deeper.expression cursor.advance.advance) ?_
      intro value after
      dsimp only
      rw [Pipeline.toExpr_relocate]
      rfl
    · rw [if_neg spelled, if_neg spelled]
      by_cases named : cursor.kind = .identifier
      · rw [if_pos named, if_pos named]
        rfl
      · rw [if_neg named, if_neg named]
        rfl
  · rw [if_neg isKey, if_neg isKey]
    rfl

end ReadsRelocated

theorem readsRelocated (move : Relocation) : ∀ depth, ReadsRelocated move depth
  | 0 =>
      { expression := fun _ => rfl
        stages := fun _ => rfl
        argumentList := fun _ _ => rfl
        arguments := fun _ => rfl
        primary := fun _ => rfl
        segments := fun _ => rfl
        items := fun _ => rfl
        entries := fun _ => rfl
        entry := fun _ => rfl }
  | depth + 1 =>
      have deeper := readsRelocated move depth
      { expression := deeper.expression_succ
        stages := deeper.stages_succ
        argumentList := deeper.argumentList_succ
        arguments := deeper.arguments_succ
        primary := deeper.primary_succ
        segments := deeper.segments_succ
        items := deeper.items_succ
        entries := deeper.entries_succ
        entry := deeper.entry_succ }

/-! ## Reading a text at two places -/

/-- What is found in a text, moved, or its fault. -/
def Relocation.result {α : Type} (move : Relocation) (value : α → α) :
    Except Fault α → Except Fault α
  | .ok found => .ok (value found)
  | .error fault => .error (relocateFault move fault)

theorem Relocation.of_result_eq_ok {α : Type} {move : Relocation} {value : α → α} {outcome : Except Fault α}
    {moved : α} (isMoved : move.result value outcome = .ok moved) :
    ∃ found, outcome = .ok found ∧ value found = moved := by
  cases outcome with
  | error fault => cases isMoved
  | ok found => exact ⟨found, rfl, Except.ok.inj isMoved⟩

/-- The tokens of a text, moved, or its error. -/
def Relocation.tokens (move : Relocation) :
    Except SyntaxError (List Token) → Except SyntaxError (List Token)
  | .ok tokens => .ok (tokens.map (Token.relocate move))
  | .error error => .error (error.relocate move)

theorem Pipeline.ofTokens_relocate (move : Relocation) (tokens : List Token) :
    Pipeline.ofTokens (tokens.map (Token.relocate move)) =
      move.result (Pipeline.relocate move) (Pipeline.ofTokens tokens) := by
  cases tokens with
  | nil => rfl
  | cons first rest =>
      simp only [List.map_cons, Pipeline.ofTokens, List.length_map]
      change (if (Cursor.relocate move ⟨first, rest⟩).kind = .finish then _ else _) = _
      rw [Cursor.relocate_kind]
      by_cases finished : (⟨first, rest⟩ : Cursor).kind = .finish
      · rw [if_pos finished, if_pos finished]
        rfl
      · rw [if_neg finished, if_neg finished]
        have read := (readsRelocated move (sufficientDepth (rest.length + 1))).expression ⟨first, rest⟩
        change (parseExpression _ (Cursor.relocate move ⟨first, rest⟩) >>= _) = _
        rw [read]
        rcases parseExpression (sufficientDepth (rest.length + 1)) ⟨first, rest⟩ with
          fault | ⟨pipeline, after⟩
        · rfl
        · by_cases atEnd : after.kind = .finish
          · change (if (after.relocate move).kind = .finish then _ else _) =
              move.result _ (if after.kind = .finish then _ else _)
            rw [Cursor.relocate_kind, if_pos atEnd, if_pos atEnd]
            rfl
          · change (if (after.relocate move).kind = .finish then _ else _) =
              move.result _ (if after.kind = .finish then _ else _)
            rw [Cursor.relocate_kind, if_neg atEnd, if_neg atEnd]
            rfl

/-- Whether a row of tokens is read, and as which tree, does not depend on their places. -/
theorem Pipeline.ofTokens_unplaced {tokens tokens' : List Token} {pipeline : Pipeline}
    (read : Pipeline.ofTokens tokens = .ok pipeline)
    (alike : tokens'.map (Token.relocate .forget) = tokens.map (Token.relocate .forget)) :
    ∃ pipeline', Pipeline.ofTokens tokens' = .ok pipeline' ∧ pipeline'.unplaced = pipeline.unplaced := by
  have forgotten := Pipeline.ofTokens_relocate .forget tokens
  rw [← alike, Pipeline.ofTokens_relocate, read] at forgotten
  exact Relocation.of_result_eq_ok forgotten

/-- The words of a text do not depend on where it starts. The two places have to correspond all along
the text, since every token takes its own. -/
theorem words_relocate {move move' : Relocation} (previous : Option TokenKind)
    (place place' : Position) (chars : List Char)
    (alike : ∀ front, move.apply (place.past front) = move'.apply (place'.past front)) :
    move.tokens (words previous place chars) = move'.tokens (words previous place' chars) := by
  fun_induction words previous place chars generalizing place' with
  | case1 previous place =>
      rw [words]
      simpa [Relocation.tokens, Token.relocate] using alike []
  | case2 previous place char rest isBlank inductionHypothesis =>
      rw [words_of_blank isBlank]
      exact inductionHypothesis (place'.after char) fun front => alike (char :: front)
  | case3 previous place char rest cause isFault =>
      rw [words_of_fault isFault]
      simpa [Relocation.tokens, SyntaxError.relocate, SyntaxError.of] using alike []
  | case4 previous place char rest kind more value isWord error failed inductionHypothesis =>
      have later := inductionHypothesis ((place'.after char).past more) fun front => by
        simpa [Position.past_append] using alike (char :: (more ++ front))
      rw [failed] at later
      rw [words_of_word isWord]
      generalize words (some kind) ((place'.after char).past more) (rest.drop more.length) = behind
        at later ⊢
      cases behind with
      | error error' => exact later
      | ok tokens' => cases later
  | case5 previous place char rest kind more value isWord tokens found inductionHypothesis =>
      have later := inductionHypothesis ((place'.after char).past more) fun front => by
        simpa [Position.past_append] using alike (char :: (more ++ front))
      rw [found] at later
      rw [words_of_word isWord]
      generalize words (some kind) ((place'.after char).past more) (rest.drop more.length) = behind
        at later ⊢
      cases behind with
      | error error' => cases later
      | ok tokens' =>
          have first : move.apply place = move'.apply place' := alike []
          have others : tokens.map (Token.relocate move) = tokens'.map (Token.relocate move') :=
            Except.ok.inj later
          simp [Relocation.tokens, Except.map, Token.relocate, first, others]

/-- The same words are found wherever a text starts. -/
theorem words_elsewhere {previous : Option TokenKind} {place : Position} {chars : List Char} {tokens : List Token}
    (found : words previous place chars = .ok tokens) (place' : Position) :
    ∃ tokens', words previous place' chars = .ok tokens' ∧
      tokens'.map (Token.relocate .forget) = tokens.map (Token.relocate .forget) := by
  have forgotten := @words_relocate .forget .forget previous place place' chars fun _ => rfl
  rw [found] at forgotten
  cases foundElsewhere : words previous place' chars with
  | error error =>
      rw [foundElsewhere] at forgotten
      cases forgotten
  | ok tokens' =>
      rw [foundElsewhere] at forgotten
      exact ⟨tokens', rfl, (Except.ok.inj forgotten).symm⟩

/-- An expression text gives the same tree wherever it starts, with other places in it. -/
theorem Pipeline.readAt_relocate (move move' : Relocation) (place place' : Position) (text : String)
    (alike : ∀ front, move.apply (place.past front) = move'.apply (place'.past front)) :
    move.result (Pipeline.relocate move) (Pipeline.readAt place text) =
      move'.result (Pipeline.relocate move') (Pipeline.readAt place' text) := by
  have found := words_relocate none place place' text.toList alike
  unfold Pipeline.readAt expressionTokens
  generalize words none place text.toList = outcome at found ⊢
  generalize words none place' text.toList = outcome' at found ⊢
  rcases outcome with error | tokens <;> rcases outcome' with error' | tokens'
  · exact congrArg (fun error => Except.error (Fault.malformed error)) (Except.error.inj found)
  · cases found
  · cases found
  · have moved : tokens.map (Token.relocate move) = tokens'.map (Token.relocate move') :=
      Except.ok.inj found
    change move.result _ (Pipeline.ofTokens tokens) = move'.result _ (Pipeline.ofTokens tokens')
    rw [← Pipeline.ofTokens_relocate, ← Pipeline.ofTokens_relocate, moved]

/-- Whether an expression text can be read, and as which tree, does not depend on where it starts. -/
theorem Pipeline.readAt_unplaced {place : Position} {text : String} {pipeline : Pipeline}
    (read : Pipeline.readAt place text = .ok pipeline) (place' : Position) :
    ∃ pipeline', Pipeline.readAt place' text = .ok pipeline' ∧
      pipeline'.unplaced = pipeline.unplaced := by
  have forgotten := Pipeline.readAt_relocate .forget .forget place place' text fun _ => rfl
  rw [read] at forgotten
  exact Relocation.of_result_eq_ok forgotten.symm

end Folio.Template
