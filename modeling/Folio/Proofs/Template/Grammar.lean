import Folio.Template.Parse

/-!
Contract: which rows of tokens spell which trees.

Owns: the grammar of expressions as a relation between rows of tokens and phrases, what it is to read
a phrase at a cursor, and cursors over a row that ends.

Does not own: how tokens come from a text, and the laws that tie reading to the grammar.
-/

namespace Folio.Template

open Folio.Text Folio.Number

/-! ## Phrases -/

/-- What a row of tokens stands for, with the part of the grammar that it is read by. A filter is named
with its arguments because messages about them name it. -/
inductive Phrase where
  | expression (pipeline : Pipeline)
  | stages (stages : List Stage)
  | argumentList (filter : String) (arguments : List Expr)
  | arguments (arguments : List Expr)
  | primary (expr : Expr)
  | segments (segments : List Segment)
  | items (items : List Expr)
  | entries (entries : List (String × Expr))
  | entry (entry : String × Expr)

/-- The grammar. Every rule takes the tokens of its parts in their order. -/
inductive Spells : List Token → Phrase → Prop where
  | expression {front back : List Token} {root : Expr} {stages : List Stage} :
      Spells front (.primary root) → Spells back (.stages stages) →
      Spells (front ++ back) (.expression ⟨root, stages⟩)
  | noStages : Spells [] (.stages [])
  | stage {bar name : Token} {inside rest : List Token} {arguments : List Expr}
      {stages : List Stage} :
      bar.kind = .pipe → name.kind = .identifier →
      Spells inside (.argumentList name.value arguments) → Spells rest (.stages stages) →
      Spells (bar :: name :: (inside ++ rest))
        (.stages (.mk name.value arguments name.place.line name.place.column :: stages))
  | noArgumentList {filter : String} : Spells [] (.argumentList filter [])
  | emptyArgumentList {filter : String} {opening closing : Token} :
      opening.kind = .leftParen → closing.kind = .rightParen →
      Spells [opening, closing] (.argumentList filter [])
  | argumentList {filter : String} {opening closing : Token} {inside : List Token}
      {arguments : List Expr} :
      opening.kind = .leftParen → Spells inside (.arguments arguments) →
      closing.kind = .rightParen →
      Spells (opening :: (inside ++ [closing])) (.argumentList filter arguments)
  | lastArgument {front : List Token} {pipeline : Pipeline} :
      Spells front (.expression pipeline) → Spells front (.arguments [pipeline.toExpr])
  | argument {comma : Token} {front rest : List Token} {pipeline : Pipeline}
      {arguments : List Expr} :
      Spells front (.expression pipeline) → comma.kind = .comma →
      Spells rest (.arguments arguments) →
      Spells (front ++ comma :: rest) (.arguments (pipeline.toExpr :: arguments))
  | string {word : Token} :
      word.kind = .string → Spells [word] (.primary (.literal (.str word.value)))
  | number {word : Token} {literal : Literal} :
      word.kind = .number → readNumber word.value = .ok literal →
      Spells [word] (.primary (.literal literal))
  | keyword {word : Token} {literal : Literal} :
      word.kind = .identifier → keyword? word.value = some literal →
      Spells [word] (.primary (.literal literal))
  | path {word : Token} {rest : List Token} {segments : List Segment} :
      word.kind = .identifier → keyword? word.value = none →
      Spells rest (.segments segments) →
      Spells (word :: rest) (.primary (.path word.value segments))
  | array {opening closing : Token} {inside : List Token} {items : List Expr} :
      opening.kind = .leftBracket → Spells inside (.items items) → closing.kind = .rightBracket →
      Spells (opening :: (inside ++ [closing])) (.primary (.array items))
  | object {opening closing : Token} {inside : List Token} {entries : List (String × Expr)} :
      opening.kind = .leftBrace → Spells inside (.entries entries) → closing.kind = .rightBrace →
      Spells (opening :: (inside ++ [closing])) (.primary (.object entries))
  | group {opening closing : Token} {inside : List Token} {pipeline : Pipeline} :
      opening.kind = .leftParen → Spells inside (.expression pipeline) →
      closing.kind = .rightParen →
      Spells (opening :: (inside ++ [closing])) (.primary pipeline.toExpr)
  | noSegments : Spells [] (.segments [])
  | property {dot name : Token} {rest : List Token} {segments : List Segment} :
      dot.kind = .dot → name.kind = .identifier → Spells rest (.segments segments) →
      Spells (dot :: name :: rest) (.segments (.property name.value :: segments))
  | numberProperties {dot number : Token} {rest : List Token} {properties segments : List Segment} :
      dot.kind = .dot → number.kind = .number → numberProperties? number.value = some properties →
      Spells rest (.segments segments) →
      Spells (dot :: number :: rest) (.segments (properties ++ segments))
  | index {opening closing : Token} {inside rest : List Token} {key : Pipeline}
      {segments : List Segment} :
      opening.kind = .leftBracket → Spells inside (.expression key) →
      closing.kind = .rightBracket → Spells rest (.segments segments) →
      Spells (opening :: (inside ++ closing :: rest)) (.segments (.index key.toExpr :: segments))
  | noItems : Spells [] (.items [])
  | lastItem {front : List Token} {pipeline : Pipeline} :
      Spells front (.expression pipeline) → Spells front (.items [pipeline.toExpr])
  | item {comma : Token} {front rest : List Token} {pipeline : Pipeline} {items : List Expr} :
      Spells front (.expression pipeline) → comma.kind = .comma → Spells rest (.items items) →
      Spells (front ++ comma :: rest) (.items (pipeline.toExpr :: items))
  | noEntries : Spells [] (.entries [])
  | lastEntry {front : List Token} {entry : String × Expr} :
      Spells front (.entry entry) → Spells front (.entries [entry])
  | entries {comma : Token} {front rest : List Token} {entry : String × Expr}
      {entries : List (String × Expr)} :
      Spells front (.entry entry) → comma.kind = .comma → Spells rest (.entries entries) →
      Spells (front ++ comma :: rest) (.entries (entry :: entries))
  | keyValue {key colon : Token} {rest : List Token} {pipeline : Pipeline} :
      key.kind = .identifier ∨ key.kind = .string → colon.kind = .colon →
      Spells rest (.expression pipeline) →
      Spells (key :: colon :: rest) (.entry (key.value, pipeline.toExpr))
  | shorthand {key : Token} :
      key.kind = .identifier → Spells [key] (.entry (key.value, .path key.value []))

/-- A tree that is no pipeline without stages is a whole expression by itself. -/
theorem Spells.whole {row : List Token} {expr : Expr} (spelled : Spells row (.primary expr)) :
    Spells row (.expression ⟨expr, []⟩) := by
  have whole := Spells.expression spelled .noStages
  rwa [List.append_nil] at whole

/-- The descent reads a phrase at a cursor and leaves another one behind it. -/
def Reads (depth : Nat) : Phrase → Cursor → Cursor → Prop
  | .expression pipeline, cursor, after => parseExpression depth cursor = .ok (pipeline, after)
  | .stages stages, cursor, after => parseStages depth cursor = .ok (stages, after)
  | .argumentList filter arguments, cursor, after =>
      parseArgumentList depth filter cursor = .ok (arguments, after)
  | .arguments arguments, cursor, after => parseArguments depth cursor = .ok (arguments, after)
  | .primary expr, cursor, after => parsePrimary depth cursor = .ok (expr, after)
  | .segments segments, cursor, after => parseSegments depth cursor = .ok (segments, after)
  | .items items, cursor, after => parseItems depth cursor = .ok (items, after)
  | .entries entries, cursor, after => parseEntries depth cursor = .ok (entries, after)
  | .entry entry, cursor, after => parseEntry depth cursor = .ok (entry, after)

/-! ## Cursors over a row that ends -/

/-- The cursor over a row of tokens and the finish token behind it. -/
def Cursor.over (finish : Token) : List Token → Cursor
  | [] => ⟨finish, []⟩
  | token :: tokens => ⟨token, tokens ++ [finish]⟩

/-- A row without a finish token among its tokens. -/
def Unfinished (tokens : List Token) : Prop :=
  ∀ token ∈ tokens, token.kind ≠ .finish

@[simp] theorem Cursor.over_cons_kind (finish token : Token) (tokens : List Token) :
    (Cursor.over finish (token :: tokens)).kind = token.kind := rfl

@[simp] theorem Cursor.over_cons_current (finish token : Token) (tokens : List Token) :
    (Cursor.over finish (token :: tokens)).current = token := rfl

theorem Cursor.advance_over_cons {finish token : Token} {tokens : List Token}
    (unfinished : token.kind ≠ .finish) :
    (Cursor.over finish (token :: tokens)).advance = Cursor.over finish tokens := by
  cases tokens with
  | nil => simp [Cursor.advance, Cursor.over, Cursor.kind, unfinished]
  | cons next rest => simp [Cursor.advance, Cursor.over, Cursor.kind, unfinished]

theorem Unfinished.behind {front back : List Token} (unfinished : Unfinished (front ++ back)) :
    Unfinished back :=
  fun token member => unfinished token (List.mem_append_right front member)

theorem Unfinished.tail {token : Token} {tokens : List Token}
    (unfinished : Unfinished (token :: tokens)) : Unfinished tokens :=
  fun other member => unfinished other (List.mem_cons_of_mem token member)

theorem Unfinished.head {token : Token} {tokens : List Token}
    (unfinished : Unfinished (token :: tokens)) : token.kind ≠ .finish :=
  unfinished token List.mem_cons_self

/-- A cursor at a token other than a finish token has that token in its row, and advances past it. -/
theorem Cursor.over_at {finish : Token} {tokens : List Token} {kind : TokenKind}
    (ends : finish.kind = .finish) (atKind : (Cursor.over finish tokens).kind = kind)
    (differs : kind ≠ .finish) :
    ∃ token rest, tokens = token :: rest ∧ token.kind = kind ∧
      (Cursor.over finish tokens).advance = Cursor.over finish rest := by
  cases tokens with
  | nil => exact absurd (atKind.symm.trans ends) differs
  | cons token rest =>
      have tokenKind : token.kind = kind := atKind
      exact ⟨token, rest, rfl, tokenKind, Cursor.advance_over_cons (tokenKind ▸ differs)⟩

/-- An expected token that is found is the first of the row. -/
theorem Cursor.expect_over {finish : Token} {tokens : List Token} {kind : TokenKind}
    {cause : SyntaxCause} {after : Cursor} (ends : finish.kind = .finish) (differs : kind ≠ .finish)
    (found : (Cursor.over finish tokens).expect kind cause = .ok after) :
    ∃ token rest, tokens = token :: rest ∧ token.kind = kind ∧
      after = Cursor.over finish rest := by
  unfold Cursor.expect at found
  by_cases atKind : (Cursor.over finish tokens).kind = kind
  · rw [if_pos atKind] at found
    obtain ⟨token, rest, isRow, tokenKind, advanced⟩ := Cursor.over_at ends atKind differs
    exact ⟨token, rest, isRow, tokenKind, (Except.ok.inj found).symm.trans advanced⟩
  · rw [if_neg atKind] at found
    cases found

end Folio.Template
