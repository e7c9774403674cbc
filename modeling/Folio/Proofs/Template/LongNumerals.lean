import Folio.Proofs.Template.Acceptance
import Folio.Proofs.Template.Showing
import Folio.Proofs.Template.Tiling

/-!
Contract: numerals that are too long for a template.

Owns: the fault of a row of digits longer than the limit, told by the row and the text that it stands in; that a
template refused at a numeral has such a row, whichever expression it stands in; and that every such row alone
between delimiters is refused so.

Does not own: where malformed templates are refused.
-/

namespace Folio.Template

open Folio.Text Folio.Number

/-- The fault of a row of digits that stands in a text and is longer than the limit. It tells the length of the row
and no place. -/
def IsLongNumeral (chars : List Char) (fault : Fault) : Prop :=
  ∃ row, row <:+: chars ∧ IsDigitRow row ∧ digitLimit < row.length ∧
    fault = .mishap (.numeral (.tooLongToRead row.length))

theorem IsLongNumeral.mono {chars chars' : List Char} {fault : Fault} (inside : chars <:+: chars')
    (isLong : IsLongNumeral chars fault) : IsLongNumeral chars' fault := by
  obtain ⟨row, inChars, isRow, long, isFault⟩ := isLong
  exact ⟨row, inChars.trans inside, isRow, long, isFault⟩

/-- What is malformed is no numeral, so what holds of every fault but that of a long numeral holds of it. -/
theorem holds_of_malformed {chars : List Char} {error : SyntaxError} {holds : SyntaxError → Prop}
    (told : (∃ error', Fault.malformed error = .malformed error' ∧ holds error') ∨
      IsLongNumeral chars (.malformed error)) : holds error := by
  rcases told with ⟨error', same, isHeld⟩ | ⟨_, _, _, _, isNumeral⟩
  · cases same
    exact isHeld
  · cases isNumeral

/-! ## Templates with a long numeral -/

theorem isLongNumeral_of_readNumber {chars : List Char} (isNumeral : IsNumeral chars) {fault : Fault}
    (failed : readNumber (String.ofList chars) = .error fault) : IsLongNumeral chars fault := by
  obtain ⟨negative, row, rfl, isRow, long, isFault⟩ := long_of_readNumber isNumeral failed
  refine ⟨row, ?_, isRow, long, isFault⟩
  cases negative with
  | true => exact List.infix_cons_iff.2 (.inr (List.infix_refl row))
  | false => exact List.infix_refl row

/-- A number among the words of a text stands in it as it is. -/
theorem Lexes.number_inside {previous : Option TokenKind} {place : Position} {chars : List Char}
    {tokens : List Token} (lexed : Lexes previous place chars tokens) :
    ∀ token ∈ tokens, token.kind = .number → token.value.toList <:+: chars := by
  induction lexed with
  | finish =>
      intro token member isNumber
      rw [List.mem_singleton.1 member] at isNumber
      cases isNumber
  | blank _ _ inductionHypothesis =>
      intro token member isNumber
      exact List.infix_cons (inductionHypothesis token member isNumber)
  | @word previous place kind char more rest value tokens spelled _ inductionHypothesis =>
      intro token member isNumber
      rw [← List.cons_append]
      rcases List.mem_cons.1 member with rfl | member
      · cases isNumber
        rw [String.toList_ofList]
        cases spelled with
        | number _ => exact (List.prefix_append _ rest).isInfix
        | mark marked => exact absurd rfl (punctuation?_ne_word marked).1
      · exact (inductionHypothesis token member isNumber).trans (List.suffix_append _ rest).isInfix

theorem isLongNumeral_of_readAt {place : Position} {text : String} {cause : NumeralError}
    (failed : Pipeline.readAt place text = .error (.mishap (.numeral cause))) :
    IsLongNumeral text.toList (.mishap (.numeral cause)) := by
  unfold Pipeline.readAt at failed
  cases found : expressionTokens place text with
  | error error =>
      rw [found] at failed
      cases failed
  | ok tokens =>
      rw [found] at failed
      obtain ⟨token, member, isNumber, unread⟩ := numeral_of_ofTokens failed
      have isNumeral := isNumeral_of_words found token member isNumber
      rw [← @String.ofList_toList token.value] at unread
      exact (isLongNumeral_of_readNumber isNumeral unread).mono
        ((lexes_of_words found).number_inside token member isNumber)

theorem Tiles.value_inside {place : Position} {chars : List Char} {tokens : List Token}
    (tiled : Tiles place chars tokens) : ∀ token ∈ tokens, token.value.toList <:+: chars := by
  intro token member
  have inWritten : token.value.toList <:+: token.written := by
    unfold Token.written
    split
    · exact List.infix_append openingDelimiter token.value.toList closingDelimiter
    · exact List.infix_refl _
  rw [← tiled.whole, List.flatMap_def]
  exact inWritten.trans (List.infix_of_mem_flatten (List.mem_map_of_mem member))

/-- A template that is refused at a numeral has a numeral that is too long. -/
theorem isLongNumeral_of_parseTemplate {text : String} {cause : NumeralError}
    (failed : parseTemplate text = .error (.mishap (.numeral cause))) :
    IsLongNumeral text.toList (.mishap (.numeral cause)) := by
  unfold parseTemplate at failed
  cases cut : templateTokens text with
  | error error =>
      rw [cut] at failed
      cases failed
  | ok tokens =>
      rw [cut] at failed
      obtain ⟨token, member, unread | isMalformed⟩ := nodesOfTokens_eq_error failed
      · exact (isLongNumeral_of_readAt unread).mono ((tiles_of_pieces cut).value_inside token member)
      · cases isMalformed

/-! ## A long numeral alone -/

/-- A number that cannot be read is refused before anything behind it is looked at. -/
theorem Pipeline.ofTokens_unread {numeral : String} {fault : Fault} (unread : readNumber numeral = .error fault)
    (place : Position) (later : List Token) :
    Pipeline.ofTokens (⟨.number, numeral, place⟩ :: later) = .error fault := by
  have unreadRoot : ∀ depth, parsePrimary (depth + 1) ⟨⟨.number, numeral, place⟩, later⟩ = .error fault := by
    intro depth
    rw [parsePrimary]
    change (readNumber numeral >>= fun number => _) = _
    rw [unread]
    rfl
  have isDepth : sufficientDepth (later.length + 1) = 4 * (later.length + 1) + 2 + 1 + 1 := rfl
  rw [Pipeline.ofTokens, isDepth, parseExpression, unreadRoot]
  rfl

/-- Between blanks stands the one number. -/
theorem readAt_row {row : List Char} (isRow : IsDigitRow row) {fault : Fault}
    (unread : readNumber (String.ofList row) = .error fault) (place : Position) :
    Pipeline.readAt place (String.ofList (showingChars (String.ofList row))) = .error fault := by
  have ends : EndsNumber [' '] := by
    intro char isFirst
    cases isFirst
    decide
  have taken : magnitudeSpan (row ++ [' ']) = some row := magnitudeSpan_append isRow ends rfl
  have lexed : ∃ numberPlace endPlace, words none place (showingChars (String.ofList row)) =
      .ok [⟨.number, String.ofList row, numberPlace⟩, ⟨.finish, "", endPlace⟩] := by
    rw [showingChars, String.toList_ofList, words_blank, words_magnitude _ _ isRow.starts taken, words_blank, words]
    exact ⟨_, _, rfl⟩
  obtain ⟨numberPlace, endPlace, lexed⟩ := lexed
  rw [Pipeline.readAt, expressionTokens, String.toList_ofList, lexed]
  exact Pipeline.ofTokens_unread unread numberPlace _

/-- A row of digits longer than the limit is refused between delimiters. -/
theorem parseTemplate_long_row {row : List Char} (isRow : IsDigitRow row) (long : digitLimit < row.length) :
    parseTemplate (showing (String.ofList row)) =
      .error (.mishap (.numeral (.tooLongToRead row.length))) := by
  have plain : ∀ char ∈ (String.ofList row).toList, isPlain char = true := by
    rw [String.toList_ofList]
    intro char member
    apply isPlain_of_isNumeralChar
    simp [isNumeralChar, isRow.digits char member]
  have unread := readNumber_row false isRow
  rw [if_pos long] at unread
  rw [parseTemplate_showing plain, readAt_row isRow unread]
  rfl

end Folio.Template
