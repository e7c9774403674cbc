import Folio.Template.SyntaxError

/-!
Contract: a template text cut into literal text and expressions.

Owns: finding the opening delimiter of an expression, finding its end with regard to quotes and braces
inside, and the tokens of a whole template. Text outside the delimiters is kept as it is.
Does not own: what stands inside an expression.
-/

namespace Folio.Template

open Folio.Text

/-- Literal text up to the next opening delimiter, and the rest from there. -/
def spanLiteral : List Char → List Char × List Char
  | [] => ([], [])
  | '{' :: '{' :: rest => ([], '{' :: '{' :: rest)
  | char :: rest => (char :: (spanLiteral rest).1, (spanLiteral rest).2)

/-- The quote that a character outside strings opens. -/
def quoteOpened (char : Char) : Option Char :=
  if isQuote char then some char else none

/-- The number of open braces after a character outside strings. -/
def depthAfter (depth : Nat) (char : Char) : Nat :=
  if char = '{' then depth + 1 else if char = '}' then depth - 1 else depth

/-- Puts a character back in front of a content that was found. -/
def keepChar (char : Char) :
    Except SyntaxCause (List Char × List Char) → Except SyntaxCause (List Char × List Char)
  | .ok (content, rest) => .ok (char :: content, rest)
  | .error cause => .error cause

/-- The content of an expression up to its closing delimiter, and what follows the delimiter.
The delimiter counts only outside strings and with no brace open; in a string a backslash shields the
next character. -/
def spanExpression : Option Char → Nat → List Char → Except SyntaxCause (List Char × List Char)
  | some _, _, [] => .error .unterminatedInExpression
  | none, _, [] => .error .unclosedExpression
  | some quote, depth, '\\' :: shielded :: rest =>
      keepChar '\\' (keepChar shielded (spanExpression (some quote) depth rest))
  | some quote, depth, char :: rest =>
      keepChar char (spanExpression (if char = quote then none else some quote) depth rest)
  | none, 0, '}' :: '}' :: rest => .ok ([], rest)
  | none, depth, char :: rest =>
      keepChar char (spanExpression (quoteOpened char) (depthAfter depth char) rest)

theorem length_spanLiteral (chars : List Char) :
    (spanLiteral chars).1.length + (spanLiteral chars).2.length = chars.length := by
  fun_induction spanLiteral chars with
  | case1 => rfl
  | case2 => simp
  | case3 char rest _ inductionHypothesis => simp; omega

theorem keepChar_eq_ok {char : Char} {result : Except SyntaxCause (List Char × List Char)}
    {content rest : List Char} :
    keepChar char result = .ok (content, rest) ↔
      ∃ tail, content = char :: tail ∧ result = .ok (tail, rest) := by
  rcases result with cause | ⟨tail, rest'⟩
  · simp [keepChar]
  · simp only [keepChar, Except.ok.injEq, Prod.mk.injEq]
    constructor
    · rintro ⟨rfl, rfl⟩
      exact ⟨tail, rfl, rfl, rfl⟩
    · rintro ⟨_, rfl, rfl, rfl⟩
      exact ⟨rfl, rfl⟩

/-- Nothing is lost: content, closing delimiter and rest make up the text. -/
theorem append_of_spanExpression {quote : Option Char} {depth : Nat} {chars content rest : List Char}
    (found : spanExpression quote depth chars = .ok (content, rest)) :
    content ++ '}' :: '}' :: rest = chars := by
  fun_induction spanExpression quote depth chars generalizing content with
  | case1 => cases found
  | case2 => cases found
  | case3 quote depth shielded tail inductionHypothesis =>
      obtain ⟨_, rfl, shieldedFound⟩ := keepChar_eq_ok.1 found
      obtain ⟨_, rfl, tailFound⟩ := keepChar_eq_ok.1 shieldedFound
      simp [inductionHypothesis tailFound]
  | case4 quote depth char tail _ inductionHypothesis =>
      obtain ⟨_, rfl, tailFound⟩ := keepChar_eq_ok.1 found
      simp [inductionHypothesis tailFound]
  | case5 tail =>
      cases found
      rfl
  | case6 depth char tail _ inductionHypothesis =>
      obtain ⟨_, rfl, tailFound⟩ := keepChar_eq_ok.1 found
      simp [inductionHypothesis tailFound]

/-- The tokens of a template text that starts at a place. -/
def pieces (place : Position) (chars : List Char) : Except SyntaxError (List Token) :=
  match chars with
  | [] => .ok [⟨.finish, "", place⟩]
  | '{' :: '{' :: rest =>
      match _closed : spanExpression none 0 rest with
      | .error cause => .error (.of cause place)
      | .ok (content, after) =>
          let inner := place.past ['{', '{']
          match pieces ((inner.past content).past ['}', '}']) after with
          | .error error => .error error
          | .ok tokens => .ok (⟨.expression, String.ofList content, inner⟩ :: tokens)
  | char :: rest =>
      let text := char :: (spanLiteral rest).1
      match pieces (place.past text) (spanLiteral rest).2 with
      | .error error => .error error
      | .ok tokens => .ok (⟨.text, String.ofList text, place⟩ :: tokens)
termination_by chars.length
decreasing_by
  · have := congrArg List.length (append_of_spanExpression _closed)
    simp at this ⊢
    omega
  · have := length_spanLiteral rest
    simp
    omega

def templateTokens (text : String) : Except SyntaxError (List Token) :=
  pieces .start text.toList

end Folio.Template
