import Folio.Proofs.Template.Acceptance
import Folio.Proofs.Template.Lookahead
import Folio.Proofs.Template.Shorthand
import Folio.Render.Evaluate

/-!
Contract: an object with a name alone and the same object with the name written out.

Owns: where the text of a name is written out; that the longer text is read whenever the shorter one is; that the
value of an expression does not depend on the places in it; and that both texts have the same value, unless the
name is a keyword.

Does not own: which names of a row stand alone.
-/

namespace Folio

open Folio.Template Folio.Text

/-! ## Texts -/

namespace Template

/-- The text in which a name is written out: behind the name stand a colon, a space and the name again. -/
def writtenOut (text : String) (key : Token) : String :=
  let behind := key.place.offset.toNat + key.value.length
  String.ofList (text.toList.take behind ++ ':' :: ' ' :: key.value.toList ++ text.toList.drop behind)

/-- The words of a text in which a name is written out are those of the text, with a colon and the name again behind
the name. All words in front keep their places. -/
theorem words_writtenOut {text : String} {before after : List Token} {key : Token}
    (found : expressionTokens .start text = .ok (before ++ key :: after)) (isShorthand : IsShorthand before key after) :
    ∃ colon key' after',
      expressionTokens .start (writtenOut text key) = .ok (before ++ key :: colon :: key' :: after') ∧
        colon.kind = .colon ∧ key'.relocate .forget = key.relocate .forget ∧
          after'.map (Token.relocate .forget) = after.map (Token.relocate .forget) := by
  obtain ⟨mark, isLast, isMark⟩ := isShorthand.starts
  obtain ⟨others, rfl⟩ := List.getLast?_eq_some_iff.1 isLast
  rw [List.append_assoc, List.singleton_append] at found
  obtain ⟨ahead, wall, rest, isText, isWall, restFound, scans⟩ := scans_to_mark found isMark
  obtain ⟨blanks, back, rfl, named, ends, keyPlace, blanksScan, afterFound⟩ :=
    name_in_front restFound isShorthand.name
  obtain ⟨kind, name, place⟩ := key
  cases isShorthand.name
  dsimp only at *
  have isWritten : (writtenOut text ⟨.identifier, name, place⟩).toList =
      ahead ++ [wall] ++ (blanks ++ (name.toList ++ ([':'] ++ ([' '] ++ name.toList)))) ++ back := by
    have size : place.offset.toNat + name.length = (ahead ++ [wall] ++ blanks ++ name.toList).length := by
      rw [keyPlace, ← Position.past_append, offset_past, ← String.length_toList]
      simp only [Position.start, List.length_append]
      omega
    have parts : text.toList = ahead ++ [wall] ++ blanks ++ name.toList ++ back := by
      rw [isText]
      simp
    rw [writtenOut, String.toList_ofList, size, parts, List.take_left, List.drop_left]
    simp
  -- Behind the name stand the colon, a blank and the name again, and then the rest of the text as before.
  have keyAgain : Scans (some .colon) ((place.past name.toList).past [':', ' ']) name.toList
      [⟨.identifier, name, (place.past name.toList).past [':', ' ']⟩] (some .identifier) back :=
    words_name _ _ named ends
  have colonScan : Scans (some .identifier) (place.past name.toList) [':']
      [⟨.colon, ":", place.past name.toList⟩] (some .colon) ([' '] ++ name.toList ++ back) :=
    words_mark _ _ (by rfl) (by decide) _
  have behindKey := colonScan.append ((Scans.of_blank (by decide)).append keyAgain)
  have keyScan : Scans (some mark.kind) place name.toList [⟨.identifier, name, place⟩]
      (some .identifier) ([':'] ++ ([' '] ++ name.toList) ++ back) :=
    words_name _ _ named (endsName (by decide))
  subst keyPlace
  have row := (scans _).append ((blanksScan _).append (keyScan.append behindKey))
  obtain ⟨after', afterFound', sameAfter⟩ := words_elsewhere afterFound (Position.start.past
    (ahead ++ [wall] ++ (blanks ++ (name.toList ++ ([':'] ++ ([' '] ++ name.toList))))))
  rw [Scans, ← isWritten, afterFound'] at row
  generalize (Position.start.past (ahead ++ [wall])).past blanks = place at row ⊢
  refine ⟨⟨.colon, ":", place.past name.toList⟩, ⟨.identifier, name, (place.past name.toList).past [':', ' ']⟩, after',
    row.trans ?_, rfl, rfl, sameAfter⟩
  simp [Except.map]

/-- A row of words that is read is still read with a name alone written out. -/
theorem ofTokens_writtenOut {previous : Option TokenKind} {place : Position} {chars : List Char}
    {before after : List Token} {key colon : Token} {pipeline : Pipeline}
    (lexed : Lexes previous place chars (before ++ key :: after))
    (read : Pipeline.ofTokens (before ++ key :: after) = .ok pipeline) (isShorthand : IsShorthand before key after)
    (isColon : colon.kind = .colon) :
    ∃ longer, Pipeline.ofTokens (before ++ key :: colon :: key :: after) = .ok longer ∧
      (keyword? key.value = none → longer = pipeline) := by
  obtain ⟨row, finish, isRow, ends, unfinished⟩ := lexed.ends
  obtain ⟨mark, isNext, isMark⟩ := isShorthand.ends
  obtain ⟨inside, last, rfl⟩ : ∃ inside last, after = inside ++ [last] := by
    rcases List.eq_nil_or_concat' after with rfl | isConcat
    · cases isNext
    · exact isConcat
  obtain ⟨rfl, sameLast⟩ := List.append_inj' ((List.append_assoc before (key :: inside) [last]).trans isRow) rfl
  cases sameLast
  -- The finish token is neither a comma nor a brace, so one of these stands in front of it.
  have isInside : IsShorthand before key inside := by
    refine { isShorthand with ends := ⟨mark, ?_, isMark⟩ }
    cases inside with
    | nil =>
        cases isNext
        rw [ends] at isMark
        rcases isMark with isMark | isMark
        · cases isMark
        · cases isMark
    | cons => exact isNext
  obtain ⟨-, behind, across⟩ := List.pairwise_append.1 lexed.apart
  have notBefore : key ∉ before :=
    fun member => Int.lt_irrefl _ (across key member key List.mem_cons_self)
  have notAfter : key ∉ inside :=
    fun member => Int.lt_irrefl _ ((List.pairwise_cons.1 behind).1 key (List.mem_append_left [finish] member))
  have spelled : Spells (before ++ key :: inside) (.expression pipeline) := by
    apply (Pipeline.ofTokens_eq_ok_iff unfinished ends).1
    simpa using read
  obtain ⟨longer, longerSpelled, same⟩ := spelled.writeOut_one isInside isColon notBefore notAfter
  have longerUnfinished : Unfinished (before ++ key :: colon :: key :: inside) := by
    intro token member
    by_cases isTheColon : token = colon
    · rw [isTheColon, isColon]
      decide
    · refine unfinished token ?_
      simp only [List.mem_append, List.mem_cons] at member ⊢
      tauto
  refine ⟨longer, ?_, same⟩
  have isRead := (Pipeline.ofTokens_eq_ok_iff longerUnfinished ends).2 longerSpelled
  simpa using isRead

end Template

/-! ## Places -/

section Places

variable (call : FilterCall) (move : Relocation)

theorem followSegments_congr {call : FilterCall} {segment segment' : Segment} {segments segments' : List Segment}
    (sameSegment : evaluateSegment call segment = evaluateSegment call segment')
    (sameRest : followSegments call segments = followSegments call segments') :
    followSegments call (segment :: segments) = followSegments call (segment' :: segments') := by
  funext value
  by_cases isNull : value = .null
  · subst isNull
    rw [followSegments, followSegments]
  · rw [followSegments, followSegments, sameSegment, sameRest]
    · exact isNull
    · exact isNull

mutual

/-- The value of an expression does not depend on the places in it. -/
theorem evaluate_relocate : (expr : Expr) → evaluate call (expr.relocate move) = evaluate call expr
  | .literal _ => rfl
  | .path head segments => by
      rw [Expr.relocate, evaluate, evaluate, followSegments_relocate segments]
  | .array items => by
      rw [Expr.relocate, evaluate, evaluate, evaluateItems_relocate items]
  | .object entries => by
      rw [Expr.relocate, evaluate, evaluate, evaluateEntries_relocate entries]
  | .pipeline root stages => by
      rw [Expr.relocate, evaluate, evaluate, evaluate_relocate root, runStages_relocate stages]

theorem followSegments_relocate : (segments : List Segment) →
    followSegments call (relocateSegments move segments) = followSegments call segments
  | [] => rfl
  | .property _ :: segments => followSegments_congr rfl (followSegments_relocate segments)
  | .index key :: segments => by
      have sameKey : evaluateSegment call (.index (key.relocate move)) = evaluateSegment call (.index key) := by
        rw [evaluateSegment, evaluateSegment, evaluate_relocate key]
      exact followSegments_congr sameKey (followSegments_relocate segments)

theorem evaluateItems_relocate : (items : List Expr) →
    evaluateItems call (relocateExprs move items) = evaluateItems call items
  | [] => rfl
  | item :: items => by
      rw [relocateExprs, evaluateItems, evaluateItems, evaluate_relocate item, evaluateItems_relocate items]

theorem evaluateEntries_relocate : (entries : List (String × Expr)) →
    evaluateEntries call (relocateEntries move entries) = evaluateEntries call entries
  | [] => rfl
  | (key, value) :: entries => by
      funext before
      rw [relocateEntries, evaluateEntries, evaluateEntries, evaluate_relocate value,
        evaluateEntries_relocate entries]

theorem runStages_relocate : (stages : List Stage) →
    runStages call (relocateStages move stages) = runStages call stages
  | [] => rfl
  | .mk name arguments line column :: stages => by
      funext value
      rw [relocateStages, runStages, runStages, evaluateItems_relocate arguments, runStages_relocate stages]

end

theorem evaluatePipeline_unplaced (pipeline : Pipeline) :
    evaluatePipeline call pipeline.unplaced = evaluatePipeline call pipeline := by
  rw [evaluatePipeline, evaluatePipeline, Pipeline.unplaced, Pipeline.relocate, evaluate_relocate,
    runStages_relocate]

end Places

/-! ## Values -/

/-- What a name alone stands for in an object is what it stands for when it is written out. The longer text is read
whenever the shorter one is, and unless the name is a keyword both have the same value in every scope, or fail there
with the same fault. -/
theorem shorthand_is_written_out {text : String} {pipeline : Pipeline} {before after : List Token} {key : Token}
    (read : parseExpressionText text = .ok pipeline)
    (found : expressionTokens .start text = .ok (before ++ key :: after))
    (isShorthand : IsShorthand before key after) :
    ∃ longer, parseExpressionText (writtenOut text key) = .ok longer ∧
      (keyword? key.value = none →
        ∀ call, evaluatePipeline call longer = evaluatePipeline call pipeline) := by
  obtain ⟨colon, key', after', foundOut, isColon, sameKey, sameAfter⟩ := words_writtenOut found isShorthand
  rw [parseExpressionText_of_tokens found] at read
  obtain ⟨longer, longerRead, same⟩ := ofTokens_writtenOut (lexes_of_words found) read isShorthand isColon
  have alike : (before ++ key :: colon :: key' :: after').map (Token.relocate .forget) =
      (before ++ key :: colon :: key :: after).map (Token.relocate .forget) := by
    simp only [List.map_append, List.map_cons, sameKey, sameAfter]
  obtain ⟨placed, placedRead, samePlaced⟩ := Pipeline.ofTokens_unplaced longerRead alike
  refine ⟨placed, (parseExpressionText_of_tokens foundOut).trans placedRead, ?_⟩
  intro noKeyword call
  rw [← evaluatePipeline_unplaced, samePlaced, evaluatePipeline_unplaced, same noKeyword]

/-- The law in an object that is an argument of a filter and holds another one. -/
theorem shorthand_is_written_out_in_argument :
    let text := "rows | f(\x7b a, 'b': [\x7b title, x: 1 \x7d] \x7d) | g"
    ∃ pipeline longer, parseExpressionText text = .ok pipeline ∧
      parseExpressionText "rows | f(\x7b a, 'b': [\x7b title: title, x: 1 \x7d] \x7d) | g" = .ok longer ∧
        ∀ call, evaluatePipeline call longer = evaluatePipeline call pipeline := by
  intro text
  let before : List Token :=
    [⟨.identifier, "rows", ⟨0, 1, 1⟩⟩, ⟨.pipe, "|", ⟨5, 1, 6⟩⟩, ⟨.identifier, "f", ⟨7, 1, 8⟩⟩,
      ⟨.leftParen, "(", ⟨8, 1, 9⟩⟩, ⟨.leftBrace, "\x7b", ⟨9, 1, 10⟩⟩, ⟨.identifier, "a", ⟨11, 1, 12⟩⟩,
      ⟨.comma, ",", ⟨12, 1, 13⟩⟩, ⟨.string, "b", ⟨14, 1, 15⟩⟩, ⟨.colon, ":", ⟨17, 1, 18⟩⟩,
      ⟨.leftBracket, "[", ⟨19, 1, 20⟩⟩, ⟨.leftBrace, "\x7b", ⟨20, 1, 21⟩⟩]
  let key : Token := ⟨.identifier, "title", ⟨22, 1, 23⟩⟩
  let after : List Token :=
    [⟨.comma, ",", ⟨27, 1, 28⟩⟩, ⟨.identifier, "x", ⟨29, 1, 30⟩⟩, ⟨.colon, ":", ⟨30, 1, 31⟩⟩,
      ⟨.number, "1", ⟨32, 1, 33⟩⟩, ⟨.rightBrace, "\x7d", ⟨34, 1, 35⟩⟩, ⟨.rightBracket, "]", ⟨35, 1, 36⟩⟩,
      ⟨.rightBrace, "\x7d", ⟨37, 1, 38⟩⟩, ⟨.rightParen, ")", ⟨38, 1, 39⟩⟩, ⟨.pipe, "|", ⟨40, 1, 41⟩⟩,
      ⟨.identifier, "g", ⟨42, 1, 43⟩⟩, ⟨.finish, "", ⟨43, 1, 44⟩⟩]
  have found : expressionTokens .start text = .ok (before ++ key :: after) := by
    decide +kernel
  have isShorthand : IsShorthand before key after :=
    ⟨rfl, rfl, ⟨_, rfl, .inl rfl⟩, ⟨_, rfl, .inl rfl⟩⟩
  have accepted : (Pipeline.ofTokens (before ++ key :: after)).isOk = true := by
    decide +kernel
  obtain ⟨pipeline, read⟩ : ∃ pipeline, parseExpressionText text = .ok pipeline := by
    rw [parseExpressionText_of_tokens found]
    cases outcome : Pipeline.ofTokens (before ++ key :: after) with
    | ok pipeline => exact ⟨pipeline, rfl⟩
    | error fault =>
        rw [outcome] at accepted
        cases accepted
  obtain ⟨longer, longerRead, same⟩ := shorthand_is_written_out read found isShorthand
  have isLonger : writtenOut text key = "rows | f(\x7b a, 'b': [\x7b title: title, x: 1 \x7d] \x7d) | g" := by
    decide +kernel
  rw [isLonger] at longerRead
  exact ⟨pipeline, longer, read, longerRead, same (by decide)⟩

/-- A keyword alone in an object is looked up in the scope. Written out it is the value of the keyword. -/
theorem keyword_shorthand_is_looked_up :
    let text := "\x7b true \x7d"
    let key : Token := ⟨.identifier, "true", ⟨2, 1, 3⟩⟩
    let session : Session := ⟨.ofRoot [] "root", .empty⟩
    ∃ before after pipeline longer,
      expressionTokens .start text = .ok (before ++ key :: after) ∧ IsShorthand before key after ∧
        parseExpressionText text = .ok pipeline ∧ writtenOut text key = "\x7b true: true \x7d" ∧
          parseExpressionText (writtenOut text key) = .ok longer ∧
            ∀ call, (evaluatePipeline call pipeline session).1 = .ok (.map [(.str "true", .null)]) ∧
              (evaluatePipeline call longer session).1 = .ok (.map [(.str "true", .bool true)]) := by
  intro text key session
  have found : expressionTokens .start text = .ok ([⟨.leftBrace, "\x7b", ⟨0, 1, 1⟩⟩] ++ key ::
      [⟨.rightBrace, "\x7d", ⟨7, 1, 8⟩⟩, ⟨.finish, "", ⟨8, 1, 9⟩⟩]) := by
    decide +kernel
  have isLonger : writtenOut text key = "\x7b true: true \x7d" := by
    decide +kernel
  have foundLonger : expressionTokens .start "\x7b true: true \x7d" =
      .ok [⟨.leftBrace, "\x7b", ⟨0, 1, 1⟩⟩, key, ⟨.colon, ":", ⟨6, 1, 7⟩⟩, ⟨.identifier, "true", ⟨8, 1, 9⟩⟩,
        ⟨.rightBrace, "\x7d", ⟨13, 1, 14⟩⟩, ⟨.finish, "", ⟨14, 1, 15⟩⟩] := by
    decide +kernel
  refine ⟨_, _, ⟨.object [("true", .path "true" [])], []⟩, ⟨.object [("true", .literal (.bool true))], []⟩, found,
    ⟨rfl, rfl, ⟨_, rfl, .inl rfl⟩, ⟨_, rfl, .inr rfl⟩⟩, ?_, isLonger, ?_, fun call => ⟨rfl, rfl⟩⟩
  · rw [parseExpressionText_of_tokens found]
    rfl
  · rw [isLonger, parseExpressionText_of_tokens foundLonger]
    rfl

end Folio
