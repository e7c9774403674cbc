import Folio.Proofs.Template.Completeness
import Folio.Proofs.Template.Words

/-!
Contract: reading undoes printing.

Owns: that each word of the canonical spelling is found as it was written, whatever word stands before
it and as long as a space or nothing follows; the tokens of a printed row; and the round trip.

Does not own: texts that are spelled in another way.
-/

namespace Folio.Template

open Folio.Text Folio.Number

/-! ## What may stand behind a word -/

/-- The end of the text, or a space. -/
def Stops (behind : List Char) : Prop :=
  behind = [] ∨ ∃ rest, behind = ' ' :: rest

section Stops

variable {behind : List Char} (stops : Stops behind)

include stops

/-- A class of characters without the space has none of them where the text stops. -/
theorem Stops.head {isMember : Char → Bool} (noSpace : isMember ' ' = false) :
    ∀ char ∈ behind.head?, isMember char = false := by
  rcases stops with rfl | ⟨rest, rfl⟩
  · simp
  · simpa using noSpace

theorem Stops.endsNumber : EndsNumber behind :=
  fun char isFirst => ⟨stops.head (by decide) char isFirst, stops.head (by decide) char isFirst⟩

theorem Stops.fractionSpan_eq : fractionSpan behind = none := by
  rcases stops with rfl | ⟨rest, rfl⟩
  · rfl
  · rfl

end Stops

/-! ## Numerals of whole numbers -/

theorem magnitudeSpan_digits {digits : List Nat} (decimal : IsDecimal digits) {behind : List Char}
    (stops : Stops behind) :
    magnitudeSpan (digits.map digitChar ++ behind) = some (digits.map digitChar) :=
  magnitudeSpan_append decimal.isDigitRow stops.endsNumber stops.fractionSpan_eq

/-- The numeral of a whole number is found in front of a space. -/
theorem numberSpan_wholeDigits (number : Int) {behind : List Char} (stops : Stops behind) :
    numberSpan (wholeDigits number ++ behind) = some (wholeDigits number) := by
  cases number with
  | ofNat magnitude =>
      obtain ⟨digits, decimal, -, isRow⟩ := naturalDigits_eq magnitude
      have found := magnitudeSpan_digits decimal stops
      rw [wholeDigits, isRow]
      cases digits with
      | nil => exact absurd rfl decimal.nonempty
      | cons digit digits =>
          rw [numberSpan]
          · exact found
          · intro _ isMinus
            have noMinus := (digitChar_facts (decimal.small digit List.mem_cons_self)).2.2.1
            exact noMinus (List.cons.inj isMinus).1
  | negSucc magnitude =>
      obtain ⟨digits, decimal, -, isRow⟩ := naturalDigits_eq (magnitude + 1)
      rw [wholeDigits, isRow, List.cons_append, numberSpan, magnitudeSpan_digits decimal stops]
      rfl

/-- A numeral starts with a minus or with a digit. -/
theorem wholeDigits_head (number : Int) :
    ∃ char more, wholeDigits number = char :: more ∧ isBlank char = false ∧ isQuote char = false ∧
      char ≠ '.' := by
  have digitHead : ∀ magnitude, ∃ char more, naturalDigits magnitude = char :: more ∧
      isBlank char = false ∧ isQuote char = false ∧ char ≠ '.' := by
    intro magnitude
    have all : ∀ digit : Fin 10, isBlank (digitChar digit) = false ∧
        isQuote (digitChar digit) = false ∧ digitChar digit ≠ '.' := by decide
    obtain ⟨digits, decimal, -, isRow⟩ := naturalDigits_eq magnitude
    cases digits with
    | nil => exact absurd rfl decimal.nonempty
    | cons digit digits =>
        have facts := all ⟨digit, decimal.small digit List.mem_cons_self⟩
        exact ⟨_, _, isRow, facts⟩
  cases number with
  | ofNat magnitude => exact digitHead magnitude
  | negSucc magnitude => exact ⟨'-', _, rfl, by decide⟩

/-! ## Words in a text -/

namespace Word

/-- A mark is the mark of its kind, and a name is a name. -/
def isProper : Word → Bool
  | .mark kind char => punctuation? char = some kind
  | .name text => isName text
  | .whole _ => true
  | .string _ => true

variable {behind : List Char}

theorem kind_ne_finish {word : Word} (proper : word.isProper = true) : word.kind ≠ .finish := by
  cases word with
  | mark ofKind char => exact (punctuation?_brace (of_decide_eq_true proper)).2.1
  | _ => nofun

/-- The tokens of a text that starts with a word. -/
theorem words_eq {word : Word} (proper : word.isProper = true) (stops : Stops behind)
    (previous : Option TokenKind) (place : Position) :
    words previous place (word.spelling ++ behind) =
      (words (some word.kind) (place.past word.spelling) behind).map
        (⟨word.kind, String.ofList word.value, place⟩ :: ·) := by
  cases word with
  | mark ofKind char =>
      have marked : punctuation? char = some ofKind := of_decide_eq_true proper
      by_cases isPoint : char = '.'
      · subst isPoint
        cases marked
        exact words_point previous place (.inr (stops.head (by decide)))
      · exact words_mark previous place marked isPoint behind
  | name text =>
      rw [value, String.ofList_toList]
      exact words_name previous place proper (stops.head (by decide))
  | whole number =>
      obtain ⟨char, more, isNumeral, noBlank, noQuote, noPoint⟩ := wholeDigits_head number
      have found := numberSpan_wholeDigits number stops
      rw [isNumeral] at found
      rw [spelling, value, isNumeral]
      exact words_number previous place noBlank noQuote (fun isPoint => absurd isPoint noPoint) found
  | string text =>
      rw [value, String.ofList_toList]
      exact words_quoted previous place text behind

end Word

/-! ## The words of a printed tree -/

theorem isProper_writtenKey (key : String) : (writtenKey key).isProper = true := by
  unfold writtenKey
  by_cases named : isName key
  · rwa [if_pos named]
  · rw [if_neg named]
    rfl

theorem Literal.isProper_written (value : Literal) :
    ∀ word ∈ value.written, word.isProper = true := by
  cases value with
  | bool value => cases value <;> decide
  | _ => simp [Literal.written, Word.isProper] <;> decide

mutual

theorem Expr.isProper_written : (expr : Expr) → expr.isNormal = true →
    ∀ word ∈ expr.written, word.isProper = true
  | .literal value, _ => value.isProper_written
  | .path head segments, normal => by
      simp only [Expr.isNormal, Bool.and_eq_true] at normal
      have segmentsProper := isProper_writtenSegments segments normal.2
      simp only [Expr.written, List.forall_mem_cons]
      exact ⟨normal.1.1, segmentsProper⟩
  | .array items, normal => by
      have itemsProper := isProper_writtenExprs items normal
      simp only [Expr.written, List.forall_mem_cons, List.forall_mem_append]
      exact ⟨by decide, itemsProper, by decide⟩
  | .object entries, normal => by
      have entriesProper := isProper_writtenEntries entries normal
      simp only [Expr.written, List.forall_mem_cons, List.forall_mem_append]
      exact ⟨by decide, entriesProper, by decide⟩
  | .pipeline root stages, normal => by
      simp only [Expr.isNormal, Bool.and_eq_true] at normal
      have rootProper := root.isProper_written normal.1.1
      have stagesProper := isProper_writtenStages stages normal.2
      simp only [Expr.written, List.forall_mem_cons, List.forall_mem_append]
      exact ⟨by decide, ⟨rootProper, stagesProper⟩, by decide⟩

theorem isProper_writtenExprs : (exprs : List Expr) → normalExprs exprs = true →
    ∀ word ∈ writtenExprs exprs, word.isProper = true
  | [], _ => by simp [writtenExprs]
  | [expr], normal => by
      simp only [normalExprs, Bool.and_eq_true] at normal
      exact expr.isProper_written normal.1
  | expr :: next :: exprs, normal => by
      simp only [normalExprs.eq_2 expr, Bool.and_eq_true] at normal
      have exprProper := expr.isProper_written normal.1
      have restProper := isProper_writtenExprs (next :: exprs) normal.2
      simp only [writtenExprs, List.forall_mem_cons, List.forall_mem_append]
      exact ⟨exprProper, by decide, restProper⟩

theorem isProper_writtenEntries : (entries : List (String × Expr)) → normalEntries entries = true →
    ∀ word ∈ writtenEntries entries, word.isProper = true
  | [], _ => by simp [writtenEntries]
  | [(key, value)], normal => by
      simp only [normalEntries, Bool.and_eq_true] at normal
      have valueProper := value.isProper_written normal.1
      simp only [writtenEntries, List.forall_mem_cons]
      exact ⟨isProper_writtenKey key, by decide, valueProper⟩
  | (key, value) :: next :: entries, normal => by
      simp only [normalEntries.eq_2 _ value, Bool.and_eq_true] at normal
      have valueProper := value.isProper_written normal.1
      have restProper := isProper_writtenEntries (next :: entries) normal.2
      simp only [writtenEntries, List.forall_mem_cons, List.forall_mem_append]
      exact ⟨⟨isProper_writtenKey key, by decide, valueProper⟩, by decide, restProper⟩

theorem isProper_writtenSegments : (segments : List Segment) → normalSegments segments = true →
    ∀ word ∈ writtenSegments segments, word.isProper = true
  | [], _ => by simp [writtenSegments]
  | .property name :: segments, normal => by
      simp only [normalSegments, Bool.and_eq_true] at normal
      have restProper := isProper_writtenSegments segments normal.2
      simp only [writtenSegments, List.forall_mem_cons]
      exact ⟨by decide, normal.1, restProper⟩
  | .index key :: segments, normal => by
      simp only [normalSegments, Bool.and_eq_true] at normal
      have keyProper := key.isProper_written normal.1
      have restProper := isProper_writtenSegments segments normal.2
      simp only [writtenSegments, List.forall_mem_cons, List.forall_mem_append]
      exact ⟨by decide, keyProper, by decide, restProper⟩

theorem isProper_writtenStages : (stages : List Stage) → normalStages stages = true →
    ∀ word ∈ writtenStages stages, word.isProper = true
  | [], _ => by simp [writtenStages]
  | .mk name [] line column :: stages, normal => by
      simp only [normalStages, Bool.and_eq_true] at normal
      have restProper := isProper_writtenStages stages normal.2
      simp only [writtenStages, List.forall_mem_cons]
      exact ⟨by decide, normal.1.1, restProper⟩
  | .mk name (argument :: arguments) line column :: stages, normal => by
      simp only [normalStages, Bool.and_eq_true] at normal
      have argumentsProper := isProper_writtenExprs (argument :: arguments) normal.1.2
      have restProper := isProper_writtenStages stages normal.2
      simp only [writtenStages, List.forall_mem_cons, List.forall_mem_append]
      exact ⟨by decide, normal.1.1, ⟨by decide, argumentsProper, by decide⟩, restProper⟩

end

/-! ## The round trip -/

/-- The tokens of a row of words with spaces between them are the tokens of the words. -/
theorem words_intercalate {written : List Word} (proper : ∀ word ∈ written, word.isProper = true)
    (previous : Option TokenKind) (place : Position) :
    ∃ tokens finish,
      words previous place ([' '].intercalate (written.map Word.spelling)) =
          .ok (tokens ++ [finish]) ∧
        finish.kind = .finish ∧ tokens.map (Token.relocate .forget) = tokensOf written := by
  induction written generalizing previous place with
  | nil =>
      refine ⟨[], ⟨.finish, "", place⟩, ?_, rfl, rfl⟩
      rw [List.map_nil, List.intercalate_nil, words, List.nil_append]
  | cons word written inductionHypothesis =>
      obtain ⟨wordProper, restProper⟩ := List.forall_mem_cons.1 proper
      cases written with
      | nil =>
          refine ⟨[⟨word.kind, String.ofList word.value, place⟩],
            ⟨.finish, "", place.past word.spelling⟩, ?_, rfl, rfl⟩
          rw [List.map_cons, List.map_nil, List.intercalate_singleton]
          rw [← List.append_nil word.spelling, Word.words_eq wordProper (.inl rfl), words,
            List.append_nil]
          rfl
      | cons next written =>
          obtain ⟨tokens, finish, later, ends, alike⟩ := inductionHypothesis restProper
            (some word.kind) ((place.past word.spelling).after ' ')
          refine ⟨⟨word.kind, String.ofList word.value, place⟩ :: tokens, finish, ?_, ends, ?_⟩
          · rw [List.map_cons] at later
            rw [List.map_cons, List.map_cons, List.intercalate_cons_cons, List.append_assoc,
              List.singleton_append, Word.words_eq wordProper (.inr ⟨_, rfl⟩),
              words_of_blank (by rfl), later]
            rfl
          · rw [List.map_cons, alike]
            rfl

/-- Reading undoes printing: the text of a tree in normal form reads as that tree, up to the places of
its filters. -/
theorem parseExpressionText_printed (pipeline : Pipeline) (normal : pipeline.isNormal = true) :
    ∃ read, parseExpressionText pipeline.printed = .ok read ∧ read.unplaced = pipeline.unplaced := by
  have proper : ∀ word ∈ pipeline.written, word.isProper = true := by
    simp only [Pipeline.isNormal, Bool.and_eq_true] at normal
    simp only [Pipeline.written, List.forall_mem_append]
    exact ⟨pipeline.root.isProper_written normal.1, isProper_writtenStages _ normal.2⟩
  obtain ⟨tokens, finish, lexed, ends, alike⟩ := words_intercalate proper none .start
  have unfinished : Unfinished (tokensOf pipeline.written) := by
    intro token member
    obtain ⟨word, wordMember, rfl⟩ := List.mem_map.1 member
    exact Word.kind_ne_finish (proper word wordMember)
  have forgotten :
      Pipeline.ofTokens ((tokens ++ [finish]).map (Token.relocate .forget)) =
        .ok pipeline.unplaced := by
    rw [List.map_append, alike]
    have finishEnds : (finish.relocate .forget).kind = .finish := ends
    exact (Pipeline.ofTokens_eq_ok_iff unfinished finishEnds).2 (Pipeline.spells normal)
  rw [Pipeline.ofTokens_relocate] at forgotten
  have isRead : parseExpressionText pipeline.printed = Pipeline.ofTokens (tokens ++ [finish]) := by
    rw [parseExpressionText, Pipeline.readAt, expressionTokens, Pipeline.printed,
      String.toList_ofList, lexed]
  rw [isRead]
  exact Relocation.of_result_eq_ok forgotten

/-- The law at a pipeline inside another one, with a negative index, a property that is a keyword, a key
that is no name, and a text of quotes and backslashes. -/
theorem parseExpressionText_printed_nested :
    ∃ read, parseExpressionText
        "( rows [ -1 ] . true | f ( \x7b 'a b' : [ null , 2 ] \x7d ) ) | g ( 'it\\'s \\\\' ) | h" =
          .ok read ∧
      read.unplaced =
        ⟨.pipeline (.path "rows" [.index (.literal (.int (-1))), .property "true"])
            [.mk "f" [.object [("a b", .array [.literal .null, .literal (.int 2)])]] 0 0],
          [.mk "g" [.literal (.str "it's \\")] 0 0, .mk "h" [] 0 0]⟩ := by
  obtain ⟨read, isRead, same⟩ := parseExpressionText_printed
    ⟨.pipeline (.path "rows" [.index (.literal (.int (-1))), .property "true"])
        [.mk "f" [.object [("a b", .array [.literal .null, .literal (.int 2)])]] 1 24],
      [.mk "g" [.literal (.str "it's \\")] 1 59, .mk "h" [] 1 81]⟩ (by decide +kernel)
  refine ⟨read, ?_, same⟩
  rw [← isRead]
  exact congrArg parseExpressionText (by decide +kernel)

end Folio.Template

