import Folio.Proofs.Template.Places

/-!
Contract: the words of an expression and the blanks between them are its text.

Owns: what the characters between two quotes stand for, told escape by escape; how a token is spelled in a text; the
parts of a text, which are blanks and spelled tokens; and the law that the parts of an expression, one behind the
other, are its text, with each token at the place where its spelling starts.

Does not own: which texts have words.
-/

namespace Folio.Template

open Folio.Text

/-! ## Strings -/

/-- The escapes that stand for one character, with that character. -/
def knownEscapes : List (Char × Char) :=
  [('n', '\n'), ('t', '\t'), ('r', '\r'), ('\\', '\\'), ('\'', '\''), ('"', '"')]

/-- What the characters between two quotes stand for. A character that is neither the quote nor a backslash stands for
itself, and a backslash with a character that makes no known escape for the two of them. -/
inductive Decodes (quote : Char) : List Char → List Char → Prop where
  | nothing : Decodes quote [] []
  | plain {char : Char} {inside value : List Char} :
      char ≠ '\\' → char ≠ quote → Decodes quote inside value → Decodes quote (char :: inside) (char :: value)
  | known {escaped meant : Char} {inside value : List Char} :
      (escaped, meant) ∈ knownEscapes → Decodes quote inside value →
      Decodes quote ('\\' :: escaped :: inside) (meant :: value)
  | unknown {escaped : Char} {inside value : List Char} :
      (∀ meant, (escaped, meant) ∉ knownEscapes) → Decodes quote inside value →
      Decodes quote ('\\' :: escaped :: inside) ('\\' :: escaped :: value)

theorem unescape_cases (escaped : Char) :
    (∃ meant, (escaped, meant) ∈ knownEscapes ∧ unescape escaped = [meant]) ∨
      (∀ meant, (escaped, meant) ∉ knownEscapes) ∧ unescape escaped = ['\\', escaped] := by
  unfold unescape
  by_cases isBreak : escaped = 'n'
  · subst isBreak
    exact .inl ⟨'\n', by decide, rfl⟩
  by_cases isTab : escaped = 't'
  · subst isTab
    exact .inl ⟨'\t', by decide, rfl⟩
  by_cases isReturn : escaped = 'r'
  · subst isReturn
    exact .inl ⟨'\r', by decide, rfl⟩
  rw [if_neg isBreak, if_neg isTab, if_neg isReturn]
  by_cases isShielded : escaped = '\\' ∨ escaped = '\'' ∨ escaped = '"'
  · rw [if_pos isShielded]
    refine .inl ⟨escaped, ?_, rfl⟩
    rcases isShielded with rfl | rfl | rfl <;> decide
  · rw [if_neg isShielded]
    refine .inr ⟨fun meant => ?_, rfl⟩
    simp only [knownEscapes, List.mem_cons, Prod.mk.injEq, List.not_mem_nil]
    tauto

/-- The value of a string is what the characters up to its quote stand for. -/
theorem decodes_of_spanString {quote : Char} {chars inside after : List Char}
    (found : spanString quote chars = some (inside, after)) : Decodes quote inside (decodeString inside) := by
  fun_induction spanString quote chars generalizing inside with
  | case1 => cases found
  | case2 escaped rest inductionHypothesis =>
      obtain ⟨⟨tail, behind⟩, tailFound, same⟩ := Option.map_eq_some_iff.1 found
      cases same
      have tailDecoded := inductionHypothesis tailFound
      rw [decodeString]
      rcases unescape_cases escaped with ⟨meant, isKnown, isMeant⟩ | ⟨isUnknown, isKept⟩
      · rw [isMeant]
        exact .known isKnown tailDecoded
      · rw [isKept]
        exact .unknown isUnknown tailDecoded
  | case3 rest notEscape =>
      cases found
      exact .nothing
  | case4 char rest notEscape notQuote inductionHypothesis =>
      obtain ⟨⟨tail, behind⟩, tailFound, same⟩ := Option.map_eq_some_iff.1 found
      cases same
      have unescaped : char ≠ '\\' := by
        intro isBackslash
        cases rest with
        | nil => cases tailFound
        | cons next rest => exact notEscape next rest isBackslash rfl
      rw [decodeString]
      · exact .plain unescaped notQuote (inductionHypothesis tailFound)
      · intro _ _ isBackslash _
        exact unescaped isBackslash

/-! ## Spelled tokens -/

/-- How a token of an expression is spelled: a string as a quote, what the value is decoded from, and the same quote
again, and any other token as its value. The finish token is not spelled at all. -/
structure Token.IsSpelled (token : Token) (span : List Char) : Prop where
  nonempty : span ≠ []
  unfinished : token.kind ≠ .finish
  verbatim : token.kind ≠ .string → token.value.toList = span
  quoted : token.kind = .string →
    ∃ quote inside, isQuote quote = true ∧ span = quote :: (inside ++ [quote]) ∧
      Decodes quote inside token.value.toList

theorem Spelling.isSpelled {kind : TokenKind} {span value : List Char} (spelled : Spelling kind span value)
    (place : Position) : Token.IsSpelled ⟨kind, String.ofList value, place⟩ span := by
  have unfinished := spelled.kind_ne_finish
  cases spelled with
  | @string quote inside quotes anywhere =>
      refine ⟨List.cons_ne_nil _ _, unfinished, fun noString => absurd rfl noString, fun _ => ?_⟩
      refine ⟨quote, inside, quotes, rfl, ?_⟩
      rw [String.toList_ofList]
      exact decodes_of_spanString (anywhere [])
  | number => exact ⟨List.cons_ne_nil _ _, unfinished, fun _ => String.toList_ofList, nofun⟩
  | name => exact ⟨List.cons_ne_nil _ _, unfinished, fun _ => String.toList_ofList, nofun⟩
  | mark marked =>
      refine ⟨List.cons_ne_nil _ _, unfinished, fun _ => String.toList_ofList, fun isString => ?_⟩
      exact absurd isString (punctuation?_brace marked).2.2.1

/-! ## Parts -/

/-- A part of an expression text: a blank, or a token as it is spelled. -/
inductive Part where
  | blank (char : Char)
  | word (span : List Char) (token : Token)

namespace Part

def written : Part → List Char
  | .blank char => [char]
  | .word span _ => span

def token? : Part → Option Token
  | .blank _ => none
  | .word _ token => some token

end Part

/-- The parts of an expression text that starts at a place. One behind the other they are the text; the tokens of the
text are those among them, in their order, with a finish token where the text ends; and each token has the offset, the
line and the column at which its spelling starts. -/
structure Partitions (start : Position) (chars : List Char) (tokens : List Token) (parts : List Part) : Prop where
  whole : parts.flatMap Part.written = chars
  tokens_eq : tokens = parts.filterMap Part.token? ++ [⟨.finish, "", start.counted chars⟩]
  blanks : ∀ char, .blank char ∈ parts → isBlank char = true
  spelled : ∀ span token, .word span token ∈ parts → token.IsSpelled span
  placed : ∀ front span token back, parts = front ++ .word span token :: back →
    token.place = start.counted (front.flatMap Part.written)

theorem counted_append (start : Position) (front back : List Char) :
    (start.past front).counted back = start.counted (front ++ back) := by
  rw [← past_eq_counted, ← past_eq_counted, Position.past_append]

namespace Partitions

variable {start : Position} {chars : List Char} {tokens : List Token} {parts : List Part}

theorem finish (start : Position) : Partitions start [] [⟨.finish, "", start⟩] [] where
  whole := rfl
  tokens_eq := by
    rw [← past_eq_counted]
    rfl
  blanks := by simp
  spelled := by simp
  placed := by simp

/-- A part in front of the others moves all of them along. -/
theorem placed_cons {part : Part} (partitions : Partitions (start.past part.written) chars tokens parts)
    (first : ∀ span token, part = .word span token → token.place = start) :
    ∀ front span token back, part :: parts = front ++ .word span token :: back →
      token.place = start.counted (front.flatMap Part.written) := by
  intro front span token back isRow
  obtain ⟨rfl, isRest⟩ | ⟨others, rfl, isRest⟩ := List.cons_eq_append_iff.1 isRow
  · rw [List.flatMap_nil, ← past_eq_counted]
    exact first span token (List.cons.inj isRest).1.symm
  · rw [partitions.placed others span token back isRest, counted_append, List.flatMap_cons]

theorem blank {char : Char} (isBlank : isBlank char = true)
    (partitions : Partitions (start.after char) chars tokens parts) :
    Partitions start (char :: chars) tokens (.blank char :: parts) where
  whole := congrArg (char :: ·) partitions.whole
  tokens_eq := by
    rw [partitions.tokens_eq, ← List.singleton_append (l := chars), ← counted_append]
    rfl
  blanks := by
    intro other member
    rcases List.mem_cons.1 member with same | member
    · cases same
      exact isBlank
    · exact partitions.blanks other member
  spelled := by
    intro span token member
    rcases List.mem_cons.1 member with same | member
    · cases same
    · exact partitions.spelled span token member
  placed := placed_cons partitions nofun

theorem word {span : List Char} {token : Token} (isSpelled : token.IsSpelled span) (isPlace : token.place = start)
    (partitions : Partitions (start.past span) chars tokens parts) :
    Partitions start (span ++ chars) (token :: tokens) (.word span token :: parts) where
  whole := congrArg (span ++ ·) partitions.whole
  tokens_eq := by
    rw [partitions.tokens_eq, ← counted_append]
    rfl
  blanks := by
    intro other member
    rcases List.mem_cons.1 member with same | member
    · cases same
    · exact partitions.blanks other member
  spelled := by
    intro span' token' member
    rcases List.mem_cons.1 member with same | member
    · cases same
      exact isSpelled
    · exact partitions.spelled span' token' member
  placed := by
    apply placed_cons partitions
    intro _ _ same
    cases same
    exact isPlace

end Partitions

/-- The words of a text and the blanks between them are its parts. -/
theorem Lexes.partitions {previous : Option TokenKind} {start : Position} {chars : List Char} {tokens : List Token}
    (lexed : Lexes previous start chars tokens) : ∃ parts, Partitions start chars tokens parts := by
  induction lexed with
  | finish => exact ⟨[], .finish _⟩
  | blank isBlank _ inductionHypothesis =>
      obtain ⟨parts, partitions⟩ := inductionHypothesis
      exact ⟨_, .blank isBlank partitions⟩
  | word spelled _ inductionHypothesis =>
      obtain ⟨parts, partitions⟩ := inductionHypothesis
      exact ⟨_, .word (spelled.isSpelled _) rfl partitions⟩

/-! ## Expressions -/

/-- The tokens of an expression partition its text, wherever the text starts. The text is a row of parts: blanks, and
one spelling for each token but the last, in the order of the tokens. Each token has the place of its spelling, counted
from the start; a string is decoded from what stands between its quotes, and any other token is spelled as its value.
The last token is the only finish token, and stands where the text ends. -/
theorem expressionTokens_partition {start : Position} {text : String} {tokens : List Token}
    (found : expressionTokens start text = .ok tokens) :
    (∃ parts, Partitions start text.toList tokens parts) ∧
      ∃ row finish, tokens = row ++ [finish] ∧ finish.kind = .finish ∧ ∀ token ∈ row, token.kind ≠ .finish := by
  have lexed := lexes_of_words found
  exact ⟨lexed.partitions, lexed.ends⟩

/-- The law for a text that starts elsewhere, with a string over two lines that holds a known and an unknown escape,
and with a point that reads a property and one that starts a number. -/
theorem expressionTokens_partition_at_lines :
    let start : Position := ⟨10, 3, 4⟩
    let text := " a.0 |\tf('\\n\n\\d', .5)"
    let tokens : List Token :=
      [⟨.identifier, "a", ⟨11, 3, 5⟩⟩, ⟨.dot, ".", ⟨12, 3, 6⟩⟩, ⟨.number, "0", ⟨13, 3, 7⟩⟩, ⟨.pipe, "|", ⟨15, 3, 9⟩⟩,
        ⟨.identifier, "f", ⟨17, 3, 11⟩⟩, ⟨.leftParen, "(", ⟨18, 3, 12⟩⟩, ⟨.string, "\n\n\\d", ⟨19, 3, 13⟩⟩,
        ⟨.comma, ",", ⟨26, 4, 4⟩⟩, ⟨.number, ".5", ⟨28, 4, 6⟩⟩, ⟨.rightParen, ")", ⟨30, 4, 8⟩⟩,
        ⟨.finish, "", ⟨31, 4, 9⟩⟩]
    expressionTokens start text = .ok tokens ∧ ∃ parts, Partitions start text.toList tokens parts := by
  intro start text tokens
  have found : expressionTokens start text = .ok tokens := by decide +kernel
  exact ⟨found, (expressionTokens_partition found).1⟩

end Folio.Template
