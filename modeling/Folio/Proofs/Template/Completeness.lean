import Folio.Proofs.Template.Soundness

/-!
Contract: what is spelled is read.

Owns: the law that the descent reads every row that the grammar spells, where it has depth enough and
nothing behind the row continues it; both directions together for whole expressions; and where a row is refused
that has an expression in front.
-/

namespace Folio.Template

open Folio.Text Folio.Number

/-- The kinds of tokens that a value starts with. -/
def TokenKind.beginsValue : TokenKind → Bool
  | .string | .number | .identifier | .leftBracket | .leftBrace | .leftParen => true
  | _ => false

/-- The phrases that are never empty and start like a value. -/
def Phrase.isValue : Phrase → Bool
  | .expression _ | .arguments _ | .primary _ | .entry _ => true
  | _ => false

theorem Spells.begins {tokens : List Token} {phrase : Phrase} (spelled : Spells tokens phrase)
    (isValue : phrase.isValue = true) :
    ∃ token rest, tokens = token :: rest ∧ token.kind.beginsValue = true := by
  induction spelled with
  | expression _ _ rootBegins _ =>
      obtain ⟨token, rest, rfl, begins⟩ := rootBegins rfl
      exact ⟨token, _, rfl, begins⟩
  | lastArgument _ firstBegins => exact firstBegins rfl
  | argument _ _ _ firstBegins _ =>
      obtain ⟨token, rest, rfl, begins⟩ := firstBegins rfl
      exact ⟨token, _, rfl, begins⟩
  | string kind | number kind _ | keyword kind _ | path kind _ _ | array kind _ _ | object kind _ _
  | group kind _ _ | shorthand kind => exact ⟨_, _, rfl, by rw [kind]; rfl⟩
  | keyValue kind _ _ =>
      refine ⟨_, _, rfl, ?_⟩
      rcases kind with kind | kind
      · rw [kind]
        rfl
      · rw [kind]
        rfl
  | _ => cases isValue

/-- The kind of the token behind a phrase, where it cannot be taken for a part of it. -/
def Phrase.mayPrecede : Phrase → TokenKind → Bool
  | .expression _, kind | .entry _, kind =>
      kind != .pipe && kind != .dot && kind != .leftBracket && kind != .leftParen && kind != .colon
  | .stages _, kind => kind != .pipe && kind != .leftParen
  | .argumentList _ _, kind => kind != .leftParen
  | .arguments _, kind => kind == .rightParen
  | .primary _, kind | .segments _, kind => kind != .dot && kind != .leftBracket
  | .items _, kind => kind == .rightBracket
  | .entries _, kind => kind == .rightBrace

/-- The depth that a phrase takes beyond four levels for each of its tokens. -/
def Phrase.margin : Phrase → Nat
  | .primary _ | .entry _ => 0
  | .arguments _ | .items _ => 2
  | _ => 1

/-- With depth enough, the tokens are read as the phrase, whatever stands behind them. -/
def IsRead (finish : Token) (tokens : List Token) (phrase : Phrase) : Prop :=
  ∀ depth back, 4 * tokens.length + phrase.margin ≤ depth →
    phrase.mayPrecede (Cursor.over finish back).kind = true →
    Reads depth phrase (Cursor.over finish (tokens ++ back)) (Cursor.over finish back)

/-- The last part of an expression may be followed by whatever may follow the expression. -/
theorem Phrase.mayPrecede_of_expression {pipeline : Pipeline} {kind : TokenKind}
    (mayFollow : (Phrase.expression pipeline).mayPrecede kind = true) (root : Expr)
    (stages : List Stage) :
    (Phrase.primary root).mayPrecede kind = true ∧ (Phrase.stages stages).mayPrecede kind = true := by
  cases kind <;> first | exact ⟨rfl, rfl⟩ | cases mayFollow

/-- Stages are empty or start with a bar. -/
theorem Spells.stages_next {tokens : List Token} {stages : List Stage}
    (spelled : Spells tokens (.stages stages)) (finish : Token) (behind : List Token) :
    tokens = [] ∨ (Cursor.over finish (tokens ++ behind)).kind = .pipe := by
  cases spelled with
  | noStages => exact .inl rfl
  | stage barKind _ _ _ => exact .inr barKind

theorem Cursor.expect_over_cons {finish token : Token} {tokens : List Token} {kind : TokenKind}
    {cause : SyntaxCause} (atKind : token.kind = kind) (differs : kind ≠ .finish) :
    (Cursor.over finish (token :: tokens)).expect kind cause = .ok (Cursor.over finish tokens) := by
  rw [Cursor.expect, if_pos (by exact atKind), Cursor.advance_over_cons (atKind ▸ differs)]

theorem Cursor.advance_over_kind {finish token : Token} {tokens : List Token} {kind : TokenKind}
    (atKind : token.kind = kind) (differs : kind ≠ .finish) :
    (Cursor.over finish (token :: tokens)).advance = Cursor.over finish tokens :=
  Cursor.advance_over_cons (atKind ▸ differs)

namespace IsRead

variable {finish : Token}

theorem expression {front back : List Token} {root : Expr} {stages : List Stage}
    (rootSpelled : Spells front (.primary root)) (stagesSpelled : Spells back (.stages stages))
    (rootRead : IsRead finish front (.primary root))
    (stagesRead : IsRead finish back (.stages stages)) :
    IsRead finish (front ++ back) (.expression ⟨root, stages⟩) := by
  intro depth behind enough mayFollow
  obtain ⟨first, others, rfl, -⟩ := rootSpelled.begins rfl
  simp only [Phrase.margin, List.length_append, List.length_cons] at enough
  obtain ⟨depth, rfl⟩ := Nat.exists_eq_add_of_le' (by omega : 1 ≤ depth)
  obtain ⟨rootMay, stagesMay⟩ := Phrase.mayPrecede_of_expression mayFollow root stages
  have nextMay : (Phrase.primary root).mayPrecede (Cursor.over finish (back ++ behind)).kind = true := by
    rcases stagesSpelled.stages_next finish behind with rfl | piped
    · exact rootMay
    · rw [piped]
      rfl
  have rootDone := rootRead depth (back ++ behind)
    (by simp only [Phrase.margin, List.length_cons]; omega) nextMay
  have stagesDone := stagesRead depth behind (by simp only [Phrase.margin]; omega) stagesMay
  change parseExpression (depth + 1) _ = _
  rw [parseExpression, List.append_assoc]
  exact bind_eq_ok.2 ⟨_, rootDone, bind_eq_ok.2 ⟨_, stagesDone, rfl⟩⟩

theorem noStages : IsRead finish [] (.stages []) := by
  intro depth behind enough mayFollow
  obtain ⟨depth, rfl⟩ := Nat.exists_eq_add_of_le' (enough : 1 ≤ depth)
  change parseStages (depth + 1) _ = _
  rw [parseStages, if_neg]
  · rfl
  · intro piped
    rw [show (Cursor.over finish behind).kind = .pipe from piped] at mayFollow
    cases mayFollow

theorem stage {bar name : Token} {inside rest : List Token} {arguments : List Expr}
    {stages : List Stage} (barKind : bar.kind = .pipe) (nameKind : name.kind = .identifier)
    (stagesSpelled : Spells rest (.stages stages))
    (argumentsRead : IsRead finish inside (.argumentList name.value arguments))
    (stagesRead : IsRead finish rest (.stages stages)) :
    IsRead finish (bar :: name :: (inside ++ rest))
      (.stages (.mk name.value arguments name.place.line name.place.column :: stages)) := by
  intro depth behind enough mayFollow
  simp only [Phrase.margin, List.length_append, List.length_cons] at enough
  obtain ⟨depth, rfl⟩ := Nat.exists_eq_add_of_le' (by omega : 1 ≤ depth)
  have nextMay : (Phrase.argumentList name.value arguments).mayPrecede
      (Cursor.over finish (rest ++ behind)).kind = true := by
    rcases stagesSpelled.stages_next finish behind with rfl | piped
    · exact (Bool.and_eq_true_iff.1 mayFollow).2
    · rw [piped]
      rfl
  have argumentsDone := argumentsRead depth (rest ++ behind)
    (by simp only [Phrase.margin]; omega) nextMay
  have stagesDone := stagesRead depth behind (by simp only [Phrase.margin]; omega) mayFollow
  change parseStages (depth + 1) (Cursor.over finish (bar :: name :: (inside ++ rest ++ behind))) = _
  rw [parseStages, if_pos (by exact barKind), Cursor.advance_over_kind barKind (by decide),
    List.append_assoc]
  exact bind_eq_ok.2 ⟨_, Cursor.expect_over_cons nameKind (by decide),
    bind_eq_ok.2 ⟨_, argumentsDone, bind_eq_ok.2 ⟨_, stagesDone, rfl⟩⟩⟩

theorem noArgumentList {filter : String} : IsRead finish [] (.argumentList filter []) := by
  intro depth behind enough mayFollow
  obtain ⟨depth, rfl⟩ := Nat.exists_eq_add_of_le' (enough : 1 ≤ depth)
  change parseArgumentList (depth + 1) filter _ = _
  rw [parseArgumentList, if_neg]
  · rfl
  · intro opened
    rw [show (Cursor.over finish behind).kind = .leftParen from opened] at mayFollow
    cases mayFollow

theorem emptyArgumentList {filter : String} {opening closing : Token}
    (openingKind : opening.kind = .leftParen) (closingKind : closing.kind = .rightParen) :
    IsRead finish [opening, closing] (.argumentList filter []) := by
  intro depth behind enough mayFollow
  obtain ⟨depth, rfl⟩ := Nat.exists_eq_add_of_le' (Nat.one_le_of_lt enough)
  change parseArgumentList (depth + 1) filter (Cursor.over finish (opening :: closing :: behind)) = _
  rw [parseArgumentList, if_pos (by exact openingKind),
    Cursor.advance_over_kind openingKind (by decide)]
  dsimp only
  rw [if_pos (by exact closingKind)]
  exact bind_eq_ok.2 ⟨_, rfl, bind_eq_ok.2 ⟨_, Cursor.expect_over_cons closingKind (by decide), rfl⟩⟩

theorem argumentList {filter : String} {opening closing : Token} {inside : List Token}
    {arguments : List Expr} (openingKind : opening.kind = .leftParen)
    (insideSpelled : Spells inside (.arguments arguments)) (closingKind : closing.kind = .rightParen)
    (insideRead : IsRead finish inside (.arguments arguments)) :
    IsRead finish (opening :: (inside ++ [closing])) (.argumentList filter arguments) := by
  intro depth behind enough mayFollow
  obtain ⟨first, others, rfl, begins⟩ := insideSpelled.begins rfl
  simp only [Phrase.margin, List.length_append, List.length_cons, List.length_nil] at enough
  obtain ⟨depth, rfl⟩ := Nat.exists_eq_add_of_le' (by omega : 1 ≤ depth)
  have insideDone := insideRead depth (closing :: behind)
    (by simp only [Phrase.margin, List.length_cons]; omega) (beq_iff_eq.2 closingKind)
  change parseArgumentList (depth + 1) filter
    (Cursor.over finish (opening :: (first :: others ++ [closing] ++ behind))) = _
  rw [parseArgumentList, if_pos (by exact openingKind),
    Cursor.advance_over_kind openingKind (by decide), List.append_assoc]
  dsimp only
  rw [if_neg]
  · exact bind_eq_ok.2 ⟨_, insideDone,
      bind_eq_ok.2 ⟨_, Cursor.expect_over_cons closingKind (by decide), rfl⟩⟩
  · intro closed
    rw [show first.kind = .rightParen from closed] at begins
    cases begins

theorem lastArgument {front : List Token} {pipeline : Pipeline}
    (firstRead : IsRead finish front (.expression pipeline)) :
    IsRead finish front (.arguments [pipeline.toExpr]) := by
  intro depth behind enough mayFollow
  simp only [Phrase.margin] at enough
  obtain ⟨depth, rfl⟩ := Nat.exists_eq_add_of_le' (by omega : 1 ≤ depth)
  have closed : (Cursor.over finish behind).kind = .rightParen := beq_iff_eq.1 mayFollow
  have firstDone := firstRead depth behind (by simp only [Phrase.margin]; omega)
    (by rw [closed]; rfl)
  change parseArguments (depth + 1) _ = _
  rw [parseArguments]
  refine bind_eq_ok.2 ⟨_, firstDone, ?_⟩
  dsimp only
  rw [if_neg (by rw [closed]; decide)]
  rfl

theorem argument {comma : Token} {front rest : List Token} {pipeline : Pipeline}
    {arguments : List Expr} (commaKind : comma.kind = .comma)
    (firstRead : IsRead finish front (.expression pipeline))
    (restRead : IsRead finish rest (.arguments arguments)) :
    IsRead finish (front ++ comma :: rest) (.arguments (pipeline.toExpr :: arguments)) := by
  intro depth behind enough mayFollow
  simp only [Phrase.margin, List.length_append, List.length_cons] at enough
  obtain ⟨depth, rfl⟩ := Nat.exists_eq_add_of_le' (by omega : 1 ≤ depth)
  have firstDone := firstRead depth (comma :: (rest ++ behind))
    (by simp only [Phrase.margin]; omega) (by rw [Cursor.over_cons_kind, commaKind]; rfl)
  have restDone := restRead depth behind (by simp only [Phrase.margin]; omega) mayFollow
  change parseArguments (depth + 1) _ = _
  rw [parseArguments, List.append_assoc, List.cons_append]
  refine bind_eq_ok.2 ⟨_, firstDone, ?_⟩
  dsimp only
  rw [if_pos (by exact commaKind), Cursor.advance_over_kind commaKind (by decide)]
  exact bind_eq_ok.2 ⟨_, restDone, rfl⟩

theorem string {word : Token} (kind : word.kind = .string) :
    IsRead finish [word] (.primary (.literal (.str word.value))) := by
  intro depth behind enough mayFollow
  obtain ⟨depth, rfl⟩ := Nat.exists_eq_add_of_le' (Nat.one_le_of_lt enough)
  change parsePrimary (depth + 1) (Cursor.over finish (word :: behind)) = _
  rw [parsePrimary, Cursor.over_cons_kind, kind, Cursor.advance_over_kind kind (by decide)]
  rfl

theorem number {word : Token} {literal : Literal} (kind : word.kind = .number)
    (numberRead : readNumber word.value = .ok literal) :
    IsRead finish [word] (.primary (.literal literal)) := by
  intro depth behind enough mayFollow
  obtain ⟨depth, rfl⟩ := Nat.exists_eq_add_of_le' (Nat.one_le_of_lt enough)
  change parsePrimary (depth + 1) (Cursor.over finish (word :: behind)) = _
  rw [parsePrimary, Cursor.over_cons_kind, kind, Cursor.advance_over_kind kind (by decide)]
  exact bind_eq_ok.2 ⟨_, numberRead, rfl⟩

theorem keyword {word : Token} {literal : Literal} (kind : word.kind = .identifier)
    (isKeyword : keyword? word.value = some literal) :
    IsRead finish [word] (.primary (.literal literal)) := by
  intro depth behind enough mayFollow
  obtain ⟨depth, rfl⟩ := Nat.exists_eq_add_of_le' (Nat.one_le_of_lt enough)
  change parsePrimary (depth + 1) (Cursor.over finish (word :: behind)) = _
  rw [parsePrimary, Cursor.over_cons_kind, kind, Cursor.advance_over_kind kind (by decide)]
  dsimp only
  rw [Cursor.over_cons_current, isKeyword]

theorem path {word : Token} {rest : List Token} {segments : List Segment}
    (kind : word.kind = .identifier) (isName : keyword? word.value = none)
    (segmentsRead : IsRead finish rest (.segments segments)) :
    IsRead finish (word :: rest) (.primary (.path word.value segments)) := by
  intro depth behind enough mayFollow
  simp only [Phrase.margin, List.length_cons] at enough
  obtain ⟨depth, rfl⟩ := Nat.exists_eq_add_of_le' (by omega : 1 ≤ depth)
  have segmentsDone := segmentsRead depth behind (by simp only [Phrase.margin]; omega) mayFollow
  change parsePrimary (depth + 1) (Cursor.over finish (word :: (rest ++ behind))) = _
  rw [parsePrimary, Cursor.over_cons_kind, kind, Cursor.advance_over_kind kind (by decide)]
  dsimp only
  rw [Cursor.over_cons_current, isName]
  exact bind_eq_ok.2 ⟨_, segmentsDone, rfl⟩

theorem array {opening closing : Token} {inside : List Token} {items : List Expr}
    (openingKind : opening.kind = .leftBracket) (closingKind : closing.kind = .rightBracket)
    (itemsRead : IsRead finish inside (.items items)) :
    IsRead finish (opening :: (inside ++ [closing])) (.primary (.array items)) := by
  intro depth behind enough mayFollow
  simp only [Phrase.margin, List.length_append, List.length_cons, List.length_nil] at enough
  obtain ⟨depth, rfl⟩ := Nat.exists_eq_add_of_le' (by omega : 1 ≤ depth)
  have itemsDone := itemsRead depth (closing :: behind) (by simp only [Phrase.margin]; omega)
    (beq_iff_eq.2 closingKind)
  change parsePrimary (depth + 1) (Cursor.over finish (opening :: (inside ++ [closing] ++ behind))) = _
  rw [parsePrimary, Cursor.over_cons_kind, openingKind,
    Cursor.advance_over_kind openingKind (by decide), List.append_assoc]
  exact bind_eq_ok.2 ⟨_, itemsDone,
    bind_eq_ok.2 ⟨_, Cursor.expect_over_cons closingKind (by decide), rfl⟩⟩

theorem object {opening closing : Token} {inside : List Token} {entries : List (String × Expr)}
    (openingKind : opening.kind = .leftBrace) (closingKind : closing.kind = .rightBrace)
    (entriesRead : IsRead finish inside (.entries entries)) :
    IsRead finish (opening :: (inside ++ [closing])) (.primary (.object entries)) := by
  intro depth behind enough mayFollow
  simp only [Phrase.margin, List.length_append, List.length_cons, List.length_nil] at enough
  obtain ⟨depth, rfl⟩ := Nat.exists_eq_add_of_le' (by omega : 1 ≤ depth)
  have entriesDone := entriesRead depth (closing :: behind) (by simp only [Phrase.margin]; omega)
    (beq_iff_eq.2 closingKind)
  change parsePrimary (depth + 1) (Cursor.over finish (opening :: (inside ++ [closing] ++ behind))) = _
  rw [parsePrimary, Cursor.over_cons_kind, openingKind,
    Cursor.advance_over_kind openingKind (by decide), List.append_assoc]
  exact bind_eq_ok.2 ⟨_, entriesDone,
    bind_eq_ok.2 ⟨_, Cursor.expect_over_cons closingKind (by decide), rfl⟩⟩

theorem group {opening closing : Token} {inside : List Token} {pipeline : Pipeline}
    (openingKind : opening.kind = .leftParen) (closingKind : closing.kind = .rightParen)
    (insideRead : IsRead finish inside (.expression pipeline)) :
    IsRead finish (opening :: (inside ++ [closing])) (.primary pipeline.toExpr) := by
  intro depth behind enough mayFollow
  simp only [Phrase.margin, List.length_append, List.length_cons, List.length_nil] at enough
  obtain ⟨depth, rfl⟩ := Nat.exists_eq_add_of_le' (by omega : 1 ≤ depth)
  have insideDone := insideRead depth (closing :: behind) (by simp only [Phrase.margin]; omega)
    (by rw [Cursor.over_cons_kind, closingKind]; rfl)
  change parsePrimary (depth + 1) (Cursor.over finish (opening :: (inside ++ [closing] ++ behind))) = _
  rw [parsePrimary, Cursor.over_cons_kind, openingKind,
    Cursor.advance_over_kind openingKind (by decide), List.append_assoc]
  exact bind_eq_ok.2 ⟨_, insideDone,
    bind_eq_ok.2 ⟨_, Cursor.expect_over_cons closingKind (by decide), rfl⟩⟩

theorem noSegments : IsRead finish [] (.segments []) := by
  intro depth behind enough mayFollow
  obtain ⟨depth, rfl⟩ := Nat.exists_eq_add_of_le' (enough : 1 ≤ depth)
  change parseSegments (depth + 1) (Cursor.over finish behind) = _
  rw [parseSegments]
  cases kind : (Cursor.over finish behind).kind with
  | dot =>
      rw [kind] at mayFollow
      cases mayFollow
  | leftBracket =>
      rw [kind] at mayFollow
      cases mayFollow
  | _ => rfl

theorem property {dot name : Token} {rest : List Token} {segments : List Segment}
    (dotKind : dot.kind = .dot) (nameKind : name.kind = .identifier)
    (restRead : IsRead finish rest (.segments segments)) :
    IsRead finish (dot :: name :: rest) (.segments (.property name.value :: segments)) := by
  intro depth behind enough mayFollow
  simp only [Phrase.margin, List.length_cons] at enough
  obtain ⟨depth, rfl⟩ := Nat.exists_eq_add_of_le' (by omega : 1 ≤ depth)
  have restDone := restRead depth behind (by simp only [Phrase.margin]; omega) mayFollow
  change parseSegments (depth + 1) (Cursor.over finish (dot :: name :: (rest ++ behind))) = _
  rw [parseSegments, Cursor.over_cons_kind, dotKind, Cursor.advance_over_kind dotKind (by decide)]
  dsimp only
  rw [Cursor.over_cons_kind, nameKind, Cursor.advance_over_kind nameKind (by decide)]
  exact bind_eq_ok.2 ⟨_, restDone, rfl⟩

theorem numberProperties {dot number : Token} {rest : List Token}
    {properties segments : List Segment} (dotKind : dot.kind = .dot)
    (numberKind : number.kind = .number) (named : numberProperties? number.value = some properties)
    (restRead : IsRead finish rest (.segments segments)) :
    IsRead finish (dot :: number :: rest) (.segments (properties ++ segments)) := by
  intro depth behind enough mayFollow
  simp only [Phrase.margin, List.length_cons] at enough
  obtain ⟨depth, rfl⟩ := Nat.exists_eq_add_of_le' (by omega : 1 ≤ depth)
  have restDone := restRead depth behind (by simp only [Phrase.margin]; omega) mayFollow
  change parseSegments (depth + 1) (Cursor.over finish (dot :: number :: (rest ++ behind))) = _
  rw [parseSegments, Cursor.over_cons_kind, dotKind, Cursor.advance_over_kind dotKind (by decide)]
  dsimp only
  rw [Cursor.over_cons_kind, numberKind, Cursor.over_cons_current, named,
    Cursor.advance_over_kind numberKind (by decide)]
  exact bind_eq_ok.2 ⟨_, restDone, rfl⟩

theorem index {opening closing : Token} {inside rest : List Token} {key : Pipeline}
    {segments : List Segment} (openingKind : opening.kind = .leftBracket)
    (closingKind : closing.kind = .rightBracket)
    (keyRead : IsRead finish inside (.expression key))
    (restRead : IsRead finish rest (.segments segments)) :
    IsRead finish (opening :: (inside ++ closing :: rest))
      (.segments (.index key.toExpr :: segments)) := by
  intro depth behind enough mayFollow
  simp only [Phrase.margin, List.length_append, List.length_cons] at enough
  obtain ⟨depth, rfl⟩ := Nat.exists_eq_add_of_le' (by omega : 1 ≤ depth)
  have keyDone := keyRead depth (closing :: (rest ++ behind)) (by simp only [Phrase.margin]; omega)
    (by rw [Cursor.over_cons_kind, closingKind]; rfl)
  have restDone := restRead depth behind (by simp only [Phrase.margin]; omega) mayFollow
  change parseSegments (depth + 1)
    (Cursor.over finish (opening :: (inside ++ closing :: rest ++ behind))) = _
  rw [parseSegments, Cursor.over_cons_kind, openingKind,
    Cursor.advance_over_kind openingKind (by decide), List.append_assoc, List.cons_append]
  exact bind_eq_ok.2 ⟨_, keyDone, bind_eq_ok.2 ⟨_, Cursor.expect_over_cons closingKind (by decide),
    bind_eq_ok.2 ⟨_, restDone, rfl⟩⟩⟩

theorem noItems : IsRead finish [] (.items []) := by
  intro depth behind enough mayFollow
  obtain ⟨depth, rfl⟩ := Nat.exists_eq_add_of_le' (Nat.one_le_of_lt enough)
  change parseItems (depth + 1) (Cursor.over finish behind) = _
  rw [parseItems, if_pos (beq_iff_eq.1 mayFollow)]

theorem lastItem {front : List Token} {pipeline : Pipeline}
    (firstSpelled : Spells front (.expression pipeline))
    (firstRead : IsRead finish front (.expression pipeline)) :
    IsRead finish front (.items [pipeline.toExpr]) := by
  intro depth behind enough mayFollow
  obtain ⟨first, others, rfl, begins⟩ := firstSpelled.begins rfl
  simp only [Phrase.margin] at enough
  obtain ⟨depth, rfl⟩ := Nat.exists_eq_add_of_le' (by omega : 1 ≤ depth)
  have closed : (Cursor.over finish behind).kind = .rightBracket := beq_iff_eq.1 mayFollow
  have firstDone := firstRead depth behind (by simp only [Phrase.margin]; omega)
    (by rw [closed]; rfl)
  change parseItems (depth + 1) _ = _
  rw [parseItems, if_neg]
  · refine bind_eq_ok.2 ⟨_, firstDone, ?_⟩
    dsimp only
    rw [if_neg (by rw [closed]; decide)]
    rfl
  · intro atClosing
    rw [show first.kind = .rightBracket from atClosing] at begins
    cases begins

theorem item {comma : Token} {front rest : List Token} {pipeline : Pipeline} {items : List Expr}
    (firstSpelled : Spells front (.expression pipeline)) (commaKind : comma.kind = .comma)
    (firstRead : IsRead finish front (.expression pipeline))
    (restRead : IsRead finish rest (.items items)) :
    IsRead finish (front ++ comma :: rest) (.items (pipeline.toExpr :: items)) := by
  intro depth behind enough mayFollow
  obtain ⟨first, others, rfl, begins⟩ := firstSpelled.begins rfl
  simp only [Phrase.margin, List.length_append, List.length_cons] at enough
  obtain ⟨depth, rfl⟩ := Nat.exists_eq_add_of_le' (by omega : 1 ≤ depth)
  have firstDone := firstRead depth (comma :: (rest ++ behind))
    (by simp only [Phrase.margin, List.length_cons]; omega)
    (by rw [Cursor.over_cons_kind, commaKind]; rfl)
  have restDone := restRead depth behind (by simp only [Phrase.margin]; omega) mayFollow
  change parseItems (depth + 1) _ = _
  rw [parseItems, if_neg, List.append_assoc, List.cons_append]
  · refine bind_eq_ok.2 ⟨_, firstDone, ?_⟩
    dsimp only
    rw [if_pos (by exact commaKind), Cursor.advance_over_kind commaKind (by decide)]
    exact bind_eq_ok.2 ⟨_, restDone, rfl⟩
  · intro atClosing
    rw [show first.kind = .rightBracket from atClosing] at begins
    cases begins

theorem noEntries : IsRead finish [] (.entries []) := by
  intro depth behind enough mayFollow
  obtain ⟨depth, rfl⟩ := Nat.exists_eq_add_of_le' (enough : 1 ≤ depth)
  change parseEntries (depth + 1) (Cursor.over finish behind) = _
  rw [parseEntries, if_pos (beq_iff_eq.1 mayFollow)]

theorem lastEntry {front : List Token} {entry : String × Expr}
    (firstSpelled : Spells front (.entry entry)) (firstRead : IsRead finish front (.entry entry)) :
    IsRead finish front (.entries [entry]) := by
  intro depth behind enough mayFollow
  obtain ⟨first, others, rfl, begins⟩ := firstSpelled.begins rfl
  simp only [Phrase.margin] at enough
  obtain ⟨depth, rfl⟩ := Nat.exists_eq_add_of_le' (by omega : 1 ≤ depth)
  have closed : (Cursor.over finish behind).kind = .rightBrace := beq_iff_eq.1 mayFollow
  have firstDone := firstRead depth behind (by simp only [Phrase.margin]; omega)
    (by rw [closed]; rfl)
  change parseEntries (depth + 1) _ = _
  rw [parseEntries, if_neg]
  · refine bind_eq_ok.2 ⟨_, firstDone, ?_⟩
    dsimp only
    rw [if_neg (by rw [closed]; decide)]
    rfl
  · intro atClosing
    rw [show first.kind = .rightBrace from atClosing] at begins
    cases begins

theorem entries {comma : Token} {front rest : List Token} {entry : String × Expr}
    {entries : List (String × Expr)} (firstSpelled : Spells front (.entry entry))
    (commaKind : comma.kind = .comma) (firstRead : IsRead finish front (.entry entry))
    (restRead : IsRead finish rest (.entries entries)) :
    IsRead finish (front ++ comma :: rest) (.entries (entry :: entries)) := by
  intro depth behind enough mayFollow
  obtain ⟨first, others, rfl, begins⟩ := firstSpelled.begins rfl
  simp only [Phrase.margin, List.length_append, List.length_cons] at enough
  obtain ⟨depth, rfl⟩ := Nat.exists_eq_add_of_le' (by omega : 1 ≤ depth)
  have firstDone := firstRead depth (comma :: (rest ++ behind))
    (by simp only [Phrase.margin, List.length_cons]; omega)
    (by rw [Cursor.over_cons_kind, commaKind]; rfl)
  have restDone := restRead depth behind (by simp only [Phrase.margin]; omega) mayFollow
  change parseEntries (depth + 1) _ = _
  rw [parseEntries, if_neg, List.append_assoc, List.cons_append]
  · refine bind_eq_ok.2 ⟨_, firstDone, ?_⟩
    dsimp only
    rw [if_pos (by exact commaKind), Cursor.advance_over_kind commaKind (by decide)]
    exact bind_eq_ok.2 ⟨_, restDone, rfl⟩
  · intro atClosing
    rw [show first.kind = .rightBrace from atClosing] at begins
    cases begins

theorem keyValue {key colon : Token} {rest : List Token} {pipeline : Pipeline}
    (keyKind : key.kind = .identifier ∨ key.kind = .string) (colonKind : colon.kind = .colon)
    (valueRead : IsRead finish rest (.expression pipeline)) :
    IsRead finish (key :: colon :: rest) (.entry (key.value, pipeline.toExpr)) := by
  intro depth behind enough mayFollow
  simp only [Phrase.margin, List.length_cons] at enough
  obtain ⟨depth, rfl⟩ := Nat.exists_eq_add_of_le' (by omega : 1 ≤ depth)
  have valueDone := valueRead depth behind (by simp only [Phrase.margin]; omega) mayFollow
  have unfinished : key.kind ≠ .finish := by
    rcases keyKind with kind | kind
    · rw [kind]
      decide
    · rw [kind]
      decide
  change parseEntry (depth + 1) (Cursor.over finish (key :: colon :: (rest ++ behind))) = _
  rw [parseEntry, if_pos (by exact keyKind), Cursor.advance_over_cons unfinished]
  dsimp only
  rw [if_pos (by exact colonKind), Cursor.advance_over_kind colonKind (by decide)]
  exact bind_eq_ok.2 ⟨_, valueDone, rfl⟩

theorem shorthand {key : Token} (keyKind : key.kind = .identifier) :
    IsRead finish [key] (.entry (key.value, .path key.value [])) := by
  intro depth behind enough mayFollow
  obtain ⟨depth, rfl⟩ := Nat.exists_eq_add_of_le' (Nat.one_le_of_lt enough)
  change parseEntry (depth + 1) (Cursor.over finish (key :: behind)) = _
  rw [parseEntry, if_pos (.inl (by exact keyKind)), Cursor.advance_over_kind keyKind (by decide)]
  dsimp only
  rw [if_neg, if_pos (by exact keyKind)]
  · rfl
  · intro colon
    rw [colon] at mayFollow
    cases mayFollow

end IsRead

/-- Whatever the grammar spells is read, with four levels of depth for each token and a few more. -/
theorem Spells.isRead {tokens : List Token} {phrase : Phrase} (spelled : Spells tokens phrase)
    (finish : Token) : IsRead finish tokens phrase := by
  induction spelled with
  | expression root stages rootRead stagesRead =>
      exact IsRead.expression root stages rootRead stagesRead
  | noStages => exact IsRead.noStages
  | stage bar name _ stages argumentsRead stagesRead =>
      exact IsRead.stage bar name stages argumentsRead stagesRead
  | noArgumentList => exact IsRead.noArgumentList
  | emptyArgumentList opening closing => exact IsRead.emptyArgumentList opening closing
  | argumentList opening inside closing insideRead =>
      exact IsRead.argumentList opening inside closing insideRead
  | lastArgument _ firstRead => exact IsRead.lastArgument firstRead
  | argument _ comma _ firstRead restRead => exact IsRead.argument comma firstRead restRead
  | string kind => exact IsRead.string kind
  | number kind numberRead => exact IsRead.number kind numberRead
  | keyword kind isKeyword => exact IsRead.keyword kind isKeyword
  | path kind isName _ segmentsRead => exact IsRead.path kind isName segmentsRead
  | array opening _ closing itemsRead => exact IsRead.array opening closing itemsRead
  | object opening _ closing entriesRead => exact IsRead.object opening closing entriesRead
  | group opening _ closing insideRead => exact IsRead.group opening closing insideRead
  | noSegments => exact IsRead.noSegments
  | property dot name _ restRead => exact IsRead.property dot name restRead
  | numberProperties dot number named _ restRead =>
      exact IsRead.numberProperties dot number named restRead
  | index opening _ closing _ keyRead restRead =>
      exact IsRead.index opening closing keyRead restRead
  | noItems => exact IsRead.noItems
  | lastItem first firstRead => exact IsRead.lastItem first firstRead
  | item first comma _ firstRead restRead => exact IsRead.item first comma firstRead restRead
  | noEntries => exact IsRead.noEntries
  | lastEntry first firstRead => exact IsRead.lastEntry first firstRead
  | entries first comma _ firstRead restRead => exact IsRead.entries first comma firstRead restRead
  | keyValue key colon _ valueRead => exact IsRead.keyValue key colon valueRead
  | shorthand key => exact IsRead.shorthand key

/-! ## Whole expressions -/

/-- A row that ends is read as an expression exactly if the tokens before its end spell it. -/
theorem Pipeline.ofTokens_eq_ok_iff {tokens : List Token} {finish : Token} {pipeline : Pipeline}
    (unfinished : Unfinished tokens) (ends : finish.kind = .finish) :
    Pipeline.ofTokens (tokens ++ [finish]) = .ok pipeline ↔ Spells tokens (.expression pipeline) := by
  cases tokens with
  | nil =>
      constructor
      · intro read
        rw [List.nil_append, Pipeline.ofTokens] at read
        dsimp only at read
        rw [if_pos (by exact ends)] at read
        cases read
      · intro spelled
        obtain ⟨_, _, isRow, -⟩ := spelled.begins rfl
        cases isRow
  | cons first rest =>
      rw [List.cons_append, Pipeline.ofTokens]
      dsimp only
      rw [if_neg (by exact unfinished.head)]
      constructor
      · intro read
        obtain ⟨⟨found, after⟩, expressionRead, read⟩ := bind_eq_ok.1 read
        obtain ⟨front, back, isRow, rfl, spelled⟩ :=
          readsSpelled ends _ (.expression found) (first :: rest) after unfinished expressionRead
        dsimp only at read
        by_cases atEnd : (Cursor.over finish back).kind = .finish
        · rw [if_pos atEnd] at read
          cases read
          cases back with
          | nil => rwa [isRow, List.append_nil]
          | cons token others =>
              exact absurd atEnd (unfinished token (isRow ▸ List.mem_append_right front List.mem_cons_self))
        · rw [if_neg atEnd] at read
          cases read
      · intro spelled
        have done := spelled.isRead finish (sufficientDepth ((rest ++ [finish]).length + 1)) []
          (by simp only [sufficientDepth, Phrase.margin, List.length_cons, List.length_append,
                List.length_nil]; omega)
          (by rw [show (Cursor.over finish []).kind = .finish from ends]; rfl)
        rw [List.append_nil] at done
        refine bind_eq_ok.2 ⟨_, done, ?_⟩
        dsimp only
        rw [if_pos (by exact ends)]
        rfl

/-- A row that is read as an expression up to a token that cannot continue it is refused at this token. -/
theorem Pipeline.ofTokens_unexpected {front back : List Token} {token finish : Token} {pipeline : Pipeline}
    (spelled : Spells front (.expression pipeline)) (unfinished : token.kind ≠ .finish)
    (mayFollow : (Phrase.expression pipeline).mayPrecede token.kind = true) :
    Pipeline.ofTokens (front ++ token :: back ++ [finish]) =
      .error (.malformed (.of (.unexpectedToken token.value) token.place)) := by
  obtain ⟨first, others, rfl, begins⟩ := spelled.begins rfl
  have firstUnfinished : first.kind ≠ .finish := by
    intro ends
    rw [ends] at begins
    cases begins
  have done := spelled.isRead finish (sufficientDepth ((others ++ token :: back ++ [finish]).length + 1))
    (token :: back) (by simp only [sufficientDepth, Phrase.margin, List.length_cons, List.length_append]; omega)
    mayFollow
  rw [List.cons_append, List.cons_append, Pipeline.ofTokens]
  dsimp only
  rw [if_neg (by exact firstUnfinished)]
  change (parseExpression _ (Cursor.over finish (first :: others ++ token :: back)) >>= _) = _
  change parseExpression _ _ = .ok (pipeline, _) at done
  rw [done]
  change (if token.kind = .finish then _ else _) = _
  rw [if_neg unfinished]
  rfl

end Folio.Template
