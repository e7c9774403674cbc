import Folio.Proofs.Template.Acceptance
import Folio.Proofs.Template.Cutting
import Folio.Proofs.Template.Words
import Folio.Proofs.Text.Ranges

/-!
Contract: templates that show what one name stands for.

Owns: the template that holds a name between delimiters, for every name in the sense of Unicode; that it is read as
the path of the name, or as the literal of a keyword, if expressions have such a name; and that it is malformed for
all others, where a character stands that no name of an expression has.

Does not own: what the name is bound to.
-/

namespace Folio.Template

open Folio.Text

/-! ## Between delimiters -/

/-- The template that shows what a name stands for. -/
def showing (name : String) : String :=
  "\x7b\x7b " ++ name ++ " \x7d\x7d"

/-- The characters between its delimiters. -/
def showingChars (name : String) : List Char :=
  ' ' :: (name.toList ++ [' '])

theorem isPlain_of_isNameFollower {char : Char} (follows : isNameFollower char = true) : isPlain char = true :=
  isPlain_of_class follows (by decide +kernel) (by decide +kernel) (by decide +kernel) (by decide +kernel)

theorem isPlain_of_isIdentifier {name : String} (accepted : isIdentifier name = true) :
    ∀ char ∈ name.toList, isPlain char = true :=
  fun char member => isPlain_of_isNameFollower (isNameFollower_of_isIdentifier accepted char member)

/-- A row of plain characters between delimiters is read if the expression in it is, and fails as that does. -/
theorem parseTemplate_showing {name : String} (plain : ∀ char ∈ name.toList, isPlain char = true) :
    parseTemplate (showing name) =
      (Pipeline.readAt (Position.start.past ['{', '{']) (String.ofList (showingChars name))).map fun pipeline =>
        [.expression pipeline (stripText (String.ofList (showingChars name))) 1 3] := by
  have plain : ∀ char ∈ showingChars name, isPlain char = true := by
    intro char member
    simp only [showingChars, List.mem_cons, List.mem_append, List.not_mem_nil, or_false] at member
    rcases member with rfl | member | rfl
    · decide
    · exact plain char member
    · decide
  have found : spanExpression none 0 (showingChars name ++ ['}', '}']) = .ok (showingChars name, []) := by
    have ends : spanExpression none 0 ['}', '}'] = .ok ([], []) := rfl
    simpa using spanExpression_plains plain ends
  have isText : (showing name).toList = '{' :: '{' :: (showingChars name ++ ['}', '}']) := by
    simp [showing, showingChars]
  rw [parseTemplate_eq, isText, nodesAt, pieces_of_expression found, pieces]
  dsimp only [Except.map]
  rw [nodesOfTokens]
  dsimp only
  rw [Node.ofExpression]
  dsimp only
  cases Pipeline.readAt (Position.start.past ['{', '{']) (String.ofList (showingChars name)) with
  | error fault => rfl
  | ok pipeline => rfl

/-! ## Names -/

/-- What a name is read as: a keyword is the literal that it stands for, any other name the path of the name. -/
def nameExpr (name : String) : Expr :=
  match keyword? name with
  | some literal => .literal literal
  | none => .path name []

theorem spells_nameExpr {token : Token} (isName : token.kind = .identifier) :
    Spells [token] (.expression ⟨nameExpr token.value, []⟩) := by
  have spelled : Spells [token] (.primary (nameExpr token.value)) := by
    unfold nameExpr
    cases keyword : keyword? token.value with
    | some literal => exact .keyword isName keyword
    | none => exact .path isName keyword .noSegments
  exact spelled.whole

/-- Between the blanks stands the one name. -/
theorem readAt_showingChars {name : String} (named : isName name = true) (place : Position) :
    Pipeline.readAt place (String.ofList (showingChars name)) = .ok ⟨nameExpr name, []⟩ := by
  have lexed : ∃ namePlace endPlace, words none place (showingChars name) =
      .ok ([⟨.identifier, name, namePlace⟩] ++ [⟨.finish, "", endPlace⟩]) := by
    rw [showingChars, words_blank, words_name _ _ named (endsName (by decide)), words_blank, words]
    exact ⟨_, _, rfl⟩
  obtain ⟨namePlace, endPlace, lexed⟩ := lexed
  rw [Pipeline.readAt, expressionTokens, String.toList_ofList, lexed]
  exact (Pipeline.ofTokens_eq_ok_iff (by simp [Unfinished]) rfl).2 (spells_nameExpr rfl)

/-! ## Other identifiers -/

theorem punctuation?_of_isNameFollower {char : Char} (follows : isNameFollower char = true) :
    punctuation? char = none := by
  cases marked : punctuation? char with
  | none => rfl
  | some kind =>
      exfalso
      unfold punctuation? at marked
      repeat' split at marked
      all_goals cases marked
      all_goals
        subst char
        exact absurd follows (by decide +kernel)

/-- A character of an identifier that starts no name of an expression is a digit of a number, or no word starts with
it. -/
theorem front_stray {char : Char} (follows : isNameFollower char = true) (noStart : startsName char = false)
    (previous : Option TokenKind) (rest : List Char) :
    front previous char rest =
      match numberInFront previous char rest with
      | some number => .word .number number.tail number
      | none => .fault (.unexpectedChar char) := by
  have noBlank := isBlank_of_isNameFollower follows
  have plain := isPlain_of_isNameFollower follows
  simp only [isPlain, Bool.and_eq_true, Bool.not_eq_true', bne_iff_ne] at plain
  unfold front
  cases numberInFront previous char rest with
  | some number => simp [noBlank, plain.1.1]
  | none => simp [noBlank, plain.1.1, noStart, punctuation?_of_isNameFollower follows]

/-- Words that start with such a character start with a number, if they can be told at all. -/
theorem words_stray {char : Char} (follows : isNameFollower char = true) (noStart : startsName char = false)
    {previous : Option TokenKind} {place : Position} {rest : List Char} {tokens : List Token}
    (found : words previous place (char :: rest) = .ok tokens) :
    ∃ number later, tokens = number :: later ∧ number.kind = .number := by
  have isFront := front_stray follows noStart previous rest
  cases isNumber : numberInFront previous char rest with
  | none =>
      rw [isNumber] at isFront
      rw [words_of_fault isFront] at found
      cases found
  | some number =>
      rw [isNumber] at isFront
      rw [words_of_word isFront] at found
      generalize words _ _ _ = behind at found
      cases behind with
      | error error => cases found
      | ok later =>
          cases found
          exact ⟨_, later, rfl, rfl⟩

/-- An expression that starts with a name and goes on with such a character is malformed: the number behind the name
is not expected there. -/
theorem readAt_name_stray {name : String} (named : isName name = true) {char : Char}
    (follows : isNameFollower char = true) (noName : continuesName char = false) (place : Position)
    (rest : List Char) :
    ∃ error, Pipeline.readAt place (String.ofList (' ' :: (name.toList ++ char :: rest))) =
      .error (.malformed error) := by
  have scanned : words none place (' ' :: (name.toList ++ char :: rest)) =
      (words (some .identifier) ((place.after ' ').past name.toList) (char :: rest)).map
        (⟨.identifier, name, place.after ' '⟩ :: ·) := by
    rw [words_blank, words_name _ _ named (by simpa using noName)]
  rw [Pipeline.readAt, expressionTokens, String.toList_ofList, scanned]
  cases behind : words (some .identifier) ((place.after ' ').past name.toList) (char :: rest) with
  | error error => exact ⟨error, rfl⟩
  | ok tokens =>
      have noStart : startsName char = false := by
        simp only [continuesName, Bool.or_eq_false_iff] at noName
        exact noName.1
      obtain ⟨number, later, rfl, isNumber⟩ := words_stray follows noStart behind
      obtain ⟨row, finish, isRow, ends, -⟩ := (lexes_of_words behind).ends
      obtain ⟨others, rfl⟩ : ∃ others, later = others ++ [finish] := by
        cases row with
        | nil =>
            cases isRow
            rw [ends] at isNumber
            cases isNumber
        | cons first others => exact ⟨others, (List.cons.inj isRow).2⟩
      have spelled := @spells_nameExpr ⟨.identifier, name, place.after ' '⟩ rfl
      exact ⟨_, Pipeline.ofTokens_unexpected spelled (by simp [isNumber]) (by rw [isNumber]; rfl)⟩

/-- An expression that starts with such a character is malformed, if the character starts an identifier: then it is
no digit. -/
theorem readAt_stray {char : Char} (starts : nameStarts.has char = true) (noStart : startsName char = false)
    (place : Position) (rest : List Char) :
    ∃ error, Pipeline.readAt place (String.ofList (' ' :: char :: rest)) = .error (.malformed error) := by
  have follows : isNameFollower char = true := by
    rw [isNameFollower, starts, Bool.true_or]
  have noNumber : numberInFront none char rest = none := by
    have noMinus : char ≠ '-' := by
      rintro rfl
      exact absurd starts (by decide +kernel)
    have noPoint : char ≠ '.' := by
      rintro rfl
      exact absurd starts (by decide +kernel)
    rw [numberInFront, numberSpan_eq_none (isDigit_of_nameStart starts) noMinus noPoint, ite_self]
  have isFront := front_stray follows noStart none rest
  rw [noNumber] at isFront
  rw [Pipeline.readAt, expressionTokens, String.toList_ofList, words_blank, words_of_fault isFront]
  exact ⟨_, rfl⟩

/-- An identifier that is no name of an expression has a first character that no name starts with, or a name in
front and behind it a character that no name goes on with. -/
theorem stray_of_isIdentifier {name : String} (accepted : isIdentifier name = true) (noName : isName name = false) :
    (∃ char rest, name.toList = char :: rest ∧ nameStarts.has char = true ∧ startsName char = false) ∨
      ∃ front char rest, name.toList = front.toList ++ char :: rest ∧ isName front = true ∧
        isNameFollower char = true ∧ continuesName char = false := by
  have follow := isNameFollower_of_isIdentifier accepted
  unfold isIdentifier at accepted
  unfold isName at noName
  cases isText : name.toList with
  | nil =>
      rw [isText] at accepted
      cases accepted
  | cons first rest =>
      rw [isText] at accepted noName follow
      simp only [Bool.and_eq_true] at accepted
      by_cases starts : startsName first = true
      · right
        simp only [starts, Bool.true_and] at noName
        have split : rest = rest.takeWhile continuesName ++ rest.dropWhile continuesName :=
          List.takeWhile_append_dropWhile.symm
        cases behind : rest.dropWhile continuesName with
        | nil =>
            exfalso
            rw [List.dropWhile_eq_nil_iff] at behind
            rw [List.all_eq_false] at noName
            obtain ⟨char, member, stops⟩ := noName
            exact stops (behind char member)
        | cons char others =>
            rw [behind] at split
            refine ⟨String.ofList (first :: rest.takeWhile continuesName), char, others, ?_, ?_, ?_, ?_⟩
            · rw [String.toList_ofList, List.cons_append, ← split]
            · simp [isName, starts]
            · refine follow char ?_
              rw [split]
              simp
            · have stops := List.head?_dropWhile_not continuesName rest
              rw [behind] at stops
              simpa using stops
      · refine .inl ⟨first, rest, rfl, ?_, by simpa using starts⟩
        rcases Bool.or_eq_true_iff.1 accepted.1 with isLine | inTable
        · rw [eq_of_beq isLine] at starts
          exact absurd (by decide) starts
        · exact inTable

/-- Where an identifier is no name of an expression, the template that shows it is malformed. -/
theorem parseTemplate_showing_stray {name : String} (accepted : isIdentifier name = true)
    (noName : isName name = false) : ∃ error, parseTemplate (showing name) = .error (.malformed error) := by
  have malformed : ∃ error, Pipeline.readAt (Position.start.past ['{', '{']) (String.ofList (showingChars name)) =
      .error (.malformed error) := by
    rcases stray_of_isIdentifier accepted noName with
      ⟨char, rest, isText, starts, noStart⟩ | ⟨front, char, rest, isText, named, follows, stops⟩
    · rw [showingChars, isText]
      exact readAt_stray starts noStart _ _
    · rw [showingChars, isText, List.append_assoc, List.cons_append]
      exact readAt_name_stray named follows stops _ _
  obtain ⟨error, failed⟩ := malformed
  refine ⟨error, ?_⟩
  rw [parseTemplate_showing (isPlain_of_isIdentifier accepted), failed]
  rfl

/-- A name of an expression is shown as what it is read as. -/
theorem parseTemplate_showing_name {name : String} (accepted : isIdentifier name = true)
    (named : isName name = true) :
    parseTemplate (showing name) =
      .ok [.expression ⟨nameExpr name, []⟩ (stripText (String.ofList (showingChars name))) 1 3] := by
  rw [parseTemplate_showing (isPlain_of_isIdentifier accepted), readAt_showingChars named]
  rfl

end Folio.Template
