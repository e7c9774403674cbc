import Folio.Proofs.Template.Cutting
import Folio.Proofs.Template.RoundTrip

/-!
Contract: templates that hand a quoted text to a filter.

Owns: that a template in which a text stands in quotes, followed by a filter with a name as its argument, is read
as the text itself handed to this filter, whatever the text holds.

Does not own: what the filter makes of the text.
-/

namespace Folio.Template

open Folio.Text

/-! ## Quoted texts -/

/-- A text in single quotes, with a backslash before each backslash and each single quote of it. -/
def quotedText (text : String) : String :=
  String.ofList (Word.string text).spelling

/-- A template that hands a quoted text to a filter, with a name as its argument. -/
def handingTemplate (text filter name : String) : String :=
  "\x7b\x7b " ++ quotedText text ++ " | " ++ filter ++ "(" ++ name ++ ") \x7d\x7d"

/-- The characters between the delimiters of the template. -/
def handingChars (text filter name : String) : List Char :=
  ' ' :: ((Word.string text).spelling ++
    ' ' :: '|' :: ' ' :: (filter.toList ++ '(' :: (name.toList ++ [')', ' '])))

/-- The pipeline that hands a text to a filter, with the value of a name as its argument. -/
def handing (text filter name : String) (line column : Int) : Pipeline :=
  ⟨.literal (.str text), [.mk filter [.path name []] line column]⟩

/-- The words of the expression are the quoted text, a bar, the filter and its argument in parentheses. -/
theorem readAt_handing (text : String) {filter name : String} (isFilter : isName filter = true)
    (named : isName name = true) (noKeyword : keyword? name = none) (place : Position) :
    ∃ line column, Pipeline.readAt place (String.ofList (handingChars text filter name)) =
      .ok (handing text filter name line column) := by
  have lexed : ∃ textPlace barPlace filterPlace openPlace namePlace closePlace endPlace,
      words none place (handingChars text filter name) = .ok (
        [⟨.string, text, textPlace⟩, ⟨.pipe, "|", barPlace⟩, ⟨.identifier, filter, filterPlace⟩,
          ⟨.leftParen, "(", openPlace⟩, ⟨.identifier, name, namePlace⟩, ⟨.rightParen, ")", closePlace⟩] ++
        [⟨.finish, "", endPlace⟩]) := by
    unfold handingChars
    rw [words_blank, words_quoted, words_blank, words_mark _ _ (by rfl) (by decide), words_blank,
      words_name _ _ isFilter (endsName (by decide)), words_mark _ _ (by rfl) (by decide),
      words_name _ _ named (endsName (by decide)), words_mark _ _ (by rfl) (by decide), words_blank, words]
    exact ⟨_, _, _, _, _, _, _, rfl⟩
  obtain ⟨_, _, filterPlace, _, namePlace, _, _, lexed⟩ := lexed
  refine ⟨filterPlace.line, filterPlace.column, ?_⟩
  rw [Pipeline.readAt, expressionTokens, String.toList_ofList, lexed]
  dsimp only
  refine (Pipeline.ofTokens_eq_ok_iff ?_ rfl).2 ?_
  · simp [Unfinished]
  · have path : Spells [⟨.identifier, name, namePlace⟩] (.primary (.path name [])) :=
      .path rfl noKeyword .noSegments
    exact .expression (.string rfl)
      (.stage rfl rfl (.argumentList rfl (.lastArgument path.whole) rfl) .noStages)

/-- The template is read as this one expression: what the text holds, quotes, braces and delimiters included,
stays inside the quotes. -/
theorem parseTemplate_handing (text : String) {filter name : String} (isFilter : isName filter = true)
    (named : isName name = true) (noKeyword : keyword? name = none) :
    ∃ line column, parseTemplate (handingTemplate text filter name) =
      .ok [.expression (handing text filter name line column)
        (stripText (String.ofList (handingChars text filter name))) 1 3] := by
  obtain ⟨_, _, readAlone⟩ := readAt_handing text isFilter named noKeyword .start
  have found := spanExpression_of_parseExpressionText readAlone []
  rw [String.toList_ofList] at found
  obtain ⟨line, column, read⟩ :=
    readAt_handing text isFilter named noKeyword (Position.start.past ['{', '{'])
  have node : Node.ofExpression
      ⟨.expression, String.ofList (handingChars text filter name), Position.start.past ['{', '{']⟩ =
        .ok (.expression (handing text filter name line column)
          (stripText (String.ofList (handingChars text filter name))) 1 3) := by
    rw [Node.ofExpression]
    dsimp only
    rw [read]
    rfl
  have isText : (handingTemplate text filter name).toList =
      '{' :: '{' :: (handingChars text filter name ++ ['}', '}']) := by
    simp [handingTemplate, handingChars, quotedText]
  refine ⟨line, column, ?_⟩
  rw [parseTemplate_eq, isText, nodesAt_expression found node, nodesAt_nil]
  rfl

end Folio.Template
