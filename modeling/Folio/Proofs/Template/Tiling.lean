import Folio.Proofs.Template.Places
import Mathlib.Data.List.Chain

/-!
Contract: the tokens of a template cover its text.

Owns: how a token is written in a template; the derivation of the tokens of a text, piece by piece, on which
inductions over a template run; and the law that the tokens, written one behind the other, are the text, with
each token at the place where it is written.

Does not own: what stands inside an expression, and which texts cannot be cut.
-/

namespace Folio.Template

open Folio.Text

/-! ## Written tokens -/

def openingDelimiter : List Char := ['{', '{']

def closingDelimiter : List Char := ['}', '}']

/-- What stands in a template right in front of the value of a token. -/
def Token.lead (token : Token) : List Char :=
  if token.kind = .expression then openingDelimiter else []

/-- How a token is written in a template: an expression between its delimiters, anything else as it is. -/
def Token.written (token : Token) : List Char :=
  if token.kind = .expression then openingDelimiter ++ token.value.toList ++ closingDelimiter
  else token.value.toList

theorem Token.lead_prefix (token : Token) : token.lead <+: token.written := by
  unfold Token.lead Token.written
  split
  · simp [List.append_assoc]
  · exact List.nil_prefix

/-! ## Literal text -/

/-- Literal text ends in front of the first opening delimiter, so it has none inside. -/
theorem not_opening_in_spanLiteral (chars : List Char) : ¬ openingDelimiter <:+: (spanLiteral chars).1 := by
  fun_induction spanLiteral chars with
  | case1 => simp [openingDelimiter]
  | case2 rest => simp [openingDelimiter]
  | case3 char rest notOpening inductionHypothesis =>
      intro inside
      rcases List.infix_cons_iff.1 inside with atFront | behind
      · obtain ⟨isBrace, atFront⟩ := List.cons_prefix_cons.1 atFront
        -- The second brace is the first character behind, whether or not it is literal text itself.
        have isOpening : ['{'] <+: rest :=
          atFront.trans ⟨(spanLiteral rest).2, append_spanLiteral rest⟩
        obtain ⟨tail, isRest⟩ := isOpening
        exact notOpening tail isBrace.symm isRest.symm
      · exact inductionHypothesis behind

/-- Behind literal text the template ends, or an expression opens. -/
theorem opens_behind_spanLiteral (chars : List Char) :
    (spanLiteral chars).2 = [] ∨ openingDelimiter <+: (spanLiteral chars).2 := by
  fun_induction spanLiteral chars with
  | case1 => exact .inl rfl
  | case2 rest => exact .inr ⟨rest, rfl⟩
  | case3 char rest _ inductionHypothesis => exact inductionHypothesis

/-! ## Derivations -/

/-- The tokens of a text that starts at a place, piece by piece. -/
inductive Tiles : Position → List Char → List Token → Prop where
  | finish {place : Position} : Tiles place [] [⟨.finish, "", place⟩]
  | expression {place : Position} {content rest : List Char} {tokens : List Token} :
      Tiles (place.past (openingDelimiter ++ content ++ closingDelimiter)) rest tokens →
      Tiles place (openingDelimiter ++ content ++ closingDelimiter ++ rest)
        (⟨.expression, String.ofList content, place.past openingDelimiter⟩ :: tokens)
  | text {place : Position} {text rest : List Char} {tokens : List Token} :
      text ≠ [] → ¬ openingDelimiter <:+: text → ¬ openingDelimiter <+: text ++ rest →
      (rest = [] ∨ openingDelimiter <+: rest) → Tiles (place.past text) rest tokens →
      Tiles place (text ++ rest) (⟨.text, String.ofList text, place⟩ :: tokens)

theorem tiles_of_pieces {place : Position} {chars : List Char} {tokens : List Token}
    (cut : pieces place chars = .ok tokens) : Tiles place chars tokens := by
  fun_induction pieces place chars generalizing tokens with
  | case1 place =>
      cases cut
      exact .finish
  | case2 => cases cut
  | case3 => cases cut
  | case4 place rest content after found inner later laterCut =>
      rename_i inductionHypothesis
      cases cut
      have later := inductionHypothesis laterCut
      rw [← Position.past_append, ← Position.past_append] at later
      have tiled := Tiles.expression later
      simp only [List.append_assoc] at tiled
      rwa [show closingDelimiter ++ after = '}' :: '}' :: after from rfl,
        append_of_spanExpression found] at tiled
  | case5 => cases cut
  | case6 place char rest notOpening text later laterCut =>
      rename_i inductionHypothesis
      cases cut
      have isSpan : spanLiteral (char :: rest) = (text, (spanLiteral rest).2) := by
        rw [spanLiteral]
        exact notOpening
      have noOpening := not_opening_in_spanLiteral (char :: rest)
      have opensBehind := opens_behind_spanLiteral rest
      have whole := append_spanLiteral (char :: rest)
      have notInFront : ¬ openingDelimiter <+: char :: rest := by
        rintro ⟨tail, isText⟩
        obtain ⟨isBrace, isRest⟩ := List.cons.inj isText
        exact notOpening tail isBrace.symm isRest.symm
      rw [isSpan] at noOpening whole
      rw [← whole] at notInFront ⊢
      exact .text (List.cons_ne_nil _ _) noOpening notInFront opensBehind (inductionHypothesis laterCut)

namespace Tiles

variable {place : Position} {chars : List Char} {tokens : List Token}

/-- Nothing is lost and nothing is added. -/
theorem whole (tiled : Tiles place chars tokens) : tokens.flatMap Token.written = chars := by
  induction tiled with
  | finish => rfl
  | expression _ inductionHypothesis => simp [Token.written, inductionHypothesis]
  | text _ _ _ _ _ inductionHypothesis => simp [Token.written, inductionHypothesis]

theorem ends (tiled : Tiles place chars tokens) :
    ∃ row, tokens = row ++ [⟨.finish, "", place.past chars⟩] ∧
      ∀ token ∈ row, token.kind = .text ∨ token.kind = .expression := by
  induction tiled with
  | finish => exact ⟨[], rfl, by simp⟩
  | expression _ inductionHypothesis =>
      obtain ⟨row, rfl, pieces⟩ := inductionHypothesis
      rw [← Position.past_append, ← List.cons_append]
      exact ⟨_ :: row, rfl, by simpa using pieces⟩
  | text _ _ _ _ _ inductionHypothesis =>
      obtain ⟨row, rfl, pieces⟩ := inductionHypothesis
      rw [← Position.past_append, ← List.cons_append]
      exact ⟨_ :: row, rfl, by simpa using pieces⟩

/-- Text tokens are the literal text between expressions and no more than that. -/
theorem literal (tiled : Tiles place chars tokens) :
    ∀ token ∈ tokens, token.kind = .text →
      token.value ≠ "" ∧ ¬ openingDelimiter <:+: token.value.toList := by
  induction tiled with
  | finish => simp
  | expression _ inductionHypothesis => simpa using inductionHypothesis
  | text nonempty noOpening _ _ _ inductionHypothesis =>
      intro token member isText
      rcases List.mem_cons.1 member with rfl | member
      · exact ⟨by simpa using nonempty, by simpa using noOpening⟩
      · exact inductionHypothesis token member isText

/-- Where the text ends or an expression opens, the first token is no text token. -/
theorem head_kind (tiled : Tiles place chars tokens) (opens : chars = [] ∨ openingDelimiter <+: chars) :
    ∀ token ∈ tokens.head?, token.kind ≠ .text := by
  cases tiled with
  | finish => simp
  | expression => simp
  | text nonempty _ notInFront =>
      rcases opens with isNothing | opens
      · simp [nonempty] at isNothing
      · exact absurd opens notInFront

/-- No two text tokens stand side by side. -/
theorem apart (tiled : Tiles place chars tokens) :
    tokens.IsChain fun first second => first.kind = .text → second.kind ≠ .text := by
  induction tiled with
  | finish => simp
  | expression _ inductionHypothesis =>
      apply List.IsChain.cons inductionHypothesis
      simp
  | text _ _ _ opensBehind later inductionHypothesis =>
      apply List.IsChain.cons inductionHypothesis
      intro second isNext _
      exact later.head_kind opensBehind second isNext

/-- Each token stands behind what is written in front of its value. -/
theorem placed (tiled : Tiles place chars tokens) :
    ∀ front token back, tokens = front ++ token :: back →
      token.place = place.past (front.flatMap Token.written ++ token.lead) := by
  induction tiled with
  | finish =>
      intro front token back isRow
      obtain ⟨rfl, isRest⟩ | ⟨_, rfl, isRest⟩ := List.cons_eq_append_iff.1 isRow
      · cases isRest
        rfl
      · simp at isRest
  | expression _ inductionHypothesis =>
      intro front token back isRow
      obtain ⟨rfl, isRest⟩ | ⟨others, rfl, isRest⟩ := List.cons_eq_append_iff.1 isRow
      · cases isRest
        rfl
      · rw [inductionHypothesis others token back isRest, ← Position.past_append]
        simp [Token.written]
  | text _ _ _ _ _ inductionHypothesis =>
      intro front token back isRow
      obtain ⟨rfl, isRest⟩ | ⟨others, rfl, isRest⟩ := List.cons_eq_append_iff.1 isRow
      · cases isRest
        rfl
      · rw [inductionHypothesis others token back isRest, ← Position.past_append]
        simp [Token.written]

end Tiles

/-! ## Templates -/

/-- The tokens of a template cover its text. Written one behind the other they are the text, expressions between
their delimiters and literal text as it is. Literal text is never empty, holds no opening delimiter and stands next
to no other literal text. Each token is as far in the text as what is written in front of its value, with the line
and the column of that place, and the only finish token stands at the end. -/
theorem templateTokens_cover {text : String} {tokens : List Token} (cut : templateTokens text = .ok tokens) :
    tokens.flatMap Token.written = text.toList ∧
      (∀ token ∈ tokens, token.kind = .text →
        token.value ≠ "" ∧ ¬ openingDelimiter <:+: token.value.toList) ∧
      (tokens.IsChain fun first second => first.kind = .text → second.kind ≠ .text) ∧
      (∀ front token back, tokens = front ++ token :: back →
        token.place.offset = (front.flatMap Token.written ++ token.lead).length ∧ token.place.IsIn text) ∧
      ∃ (row : List Token) (place : Position),
        tokens = row ++ [⟨.finish, "", place⟩] ∧ place.offset = text.length ∧
          ∀ token ∈ row, token.kind = .text ∨ token.kind = .expression := by
  have tiled := tiles_of_pieces cut
  refine ⟨tiled.whole, tiled.literal, tiled.apart, ?_, ?_⟩
  · intro front token back isRow
    have isPlace := tiled.placed front token back isRow
    constructor
    · rw [isPlace, past_start]
      rfl
    · obtain ⟨more, isWritten⟩ := token.lead_prefix
      have isText := tiled.whole
      rw [isRow, List.flatMap_append, List.flatMap_cons, ← isWritten] at isText
      exact Within.isIn ⟨_, more ++ back.flatMap Token.written, by simp [← isText], isPlace⟩
  · obtain ⟨row, isRow, pieces⟩ := tiled.ends
    refine ⟨row, _, isRow, ?_, pieces⟩
    rw [past_start, ← String.length_toList]
    rfl

/-- The law for a text with a brace in front of a delimiter, braces and a delimiter inside of expressions, a line
break in a string, and two expressions side by side. -/
theorem templateTokens_cover_at_braces :
    let text := "a\x7b\x7b\x7b '\x7d\x7d\n' \x7d \x7d\x7d\x7b\x7b\x7d\x7d\n\x7d"
    let tokens : List Token :=
      [⟨.text, "a", ⟨0, 1, 1⟩⟩, ⟨.expression, "\x7b '\x7d\x7d\n' \x7d ", ⟨3, 1, 4⟩⟩,
        ⟨.expression, "", ⟨17, 2, 9⟩⟩, ⟨.text, "\n\x7d", ⟨19, 2, 11⟩⟩, ⟨.finish, "", ⟨21, 3, 2⟩⟩]
    templateTokens text = .ok tokens ∧ tokens.flatMap Token.written = text.toList ∧
      (⟨17, 2, 9⟩ : Position).IsIn text := by
  intro text tokens
  have cut : templateTokens text = .ok tokens := by decide +kernel
  obtain ⟨whole, -, -, placed, -⟩ := templateTokens_cover cut
  exact ⟨cut, whole, (placed (tokens.take 2) _ _ rfl).2⟩

end Folio.Template
