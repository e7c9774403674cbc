import Folio.Proofs.Number.Reading
import Folio.Proofs.Template.Completeness
import Folio.Proofs.Template.Descent
import Folio.Proofs.Template.Printing
import Folio.Proofs.Template.Rejection

/-!
Contract: which rows of words are expressions.

Owns: the numerals among the words of expressions, and that they denote numbers up to the limit on their digits;
that reading a row of tokens fails at a numeral only if the row has it; rows of words; the law that a row is read
as an expression exactly if the grammar spells it, as the tree that the grammar gives, and is refused as malformed
otherwise; what a name alone stands for in an object; and texts that are read by their words.

Does not own: the grammar, and which texts have words.
-/

namespace Folio.Template

open Folio.Text Folio.Number

/-! ## Numerals -/

theorem isDigitRow_of_settleDigits {chars rest settled : List Char}
    (found : settleDigits (chars.takeWhile isDigit) rest = some settled) : IsDigitRow settled := by
  obtain ⟨taken, nonempty⟩ := settleDigits_split found
  exact ⟨fun char member => List.all_eq_true.1 List.all_takeWhile char (taken.subset member), nonempty⟩

theorem fractionSpan_shape {chars fraction : List Char} (found : fractionSpan chars = some fraction) :
    ∃ row, fraction = '.' :: row ∧ IsDigitRow row := by
  unfold fractionSpan at found
  split at found
  · obtain ⟨row, rowFound, rfl⟩ := Option.map_eq_some_iff.1 found
    exact ⟨row, rfl, isDigitRow_of_settleDigits rowFound⟩
  · cases found

/-- The numerals of expressions: a minus or none, and a row of digits, or a point with digits behind it and
perhaps in front. -/
inductive IsNumeral : List Char → Prop where
  | whole (negative : Bool) {row : List Char} : IsDigitRow row → IsNumeral (withMinus negative row)
  | fraction (negative : Bool) {whole row : List Char} :
      (∀ char ∈ whole, isDigit char = true) → IsDigitRow row →
      IsNumeral (withMinus negative (whole ++ '.' :: row))

theorem magnitudeSpan_shape {chars magnitude : List Char} (found : magnitudeSpan chars = some magnitude)
    (negative : Bool) : IsNumeral (withMinus negative magnitude) := by
  have digits : ∀ char ∈ chars.takeWhile isDigit, isDigit char = true :=
    List.all_eq_true.1 List.all_takeWhile
  unfold magnitudeSpan at found
  dsimp only at found
  split at found
  · obtain ⟨row, rfl, isRow⟩ := fractionSpan_shape found
    have noDigits : ∀ char ∈ ([] : List Char), isDigit char = true := by simp
    exact .fraction negative noDigits isRow
  · split at found
    · rename_i fraction fractionFound
      obtain ⟨row, rfl, isRow⟩ := fractionSpan_shape fractionFound
      cases found
      exact .fraction negative digits isRow
    · exact .whole negative (isDigitRow_of_settleDigits found)

theorem numberSpan_shape {chars number : List Char} (found : numberSpan chars = some number) :
    IsNumeral number := by
  unfold numberSpan at found
  split at found
  · obtain ⟨magnitude, magnitudeFound, rfl⟩ := Option.map_eq_some_iff.1 found
    exact magnitudeSpan_shape magnitudeFound true
  · exact magnitudeSpan_shape found false

/-- A row of digits denotes a whole number, unless it is longer than the limit. -/
theorem readNumber_row (negative : Bool) {row : List Char} (isRow : IsDigitRow row) :
    readNumber (String.ofList (withMinus negative row)) =
      if digitLimit < row.length then .error (.mishap (.numeral (.tooLongToRead row.length)))
      else .ok (.int (withSign negative (ofDigitValues (row.filterMap digitValue?)))) := by
  have noPoint : '.' ∉ withMinus negative row := by
    intro isInside
    have isDigitOrMinus : '.' = '-' ∨ '.' ∈ row := by
      cases negative <;> simp_all [withMinus]
    rcases isDigitOrMinus with isMinus | inRow
    · exact absurd isMinus (by decide)
    · exact absurd (isRow.digits '.' inRow) (by decide)
  unfold readNumber
  rw [String.toList_ofList, if_neg (by simpa using noPoint), readWhole_row negative isRow]
  by_cases long : digitLimit < row.length
  · rw [if_pos long, if_pos long]
  · rw [if_neg long, if_neg long]

/-- Digits around a point denote a number, however many they are. -/
theorem readNumber_fraction (negative : Bool) {whole row : List Char}
    (digits : ∀ char ∈ whole, isDigit char = true) (isRow : IsDigitRow row) :
    ∃ number, readNumber (String.ofList (withMinus negative (whole ++ '.' :: row))) = .ok (.float number) := by
  have point : '.' ∈ withMinus negative (whole ++ '.' :: row) := by
    cases negative <;> simp [withMinus]
  obtain ⟨number, isNumber⟩ := read_of_fraction negative digits isRow
  refine ⟨number, ?_⟩
  unfold readNumber
  rw [String.toList_ofList, if_pos (by simpa using point), isNumber]

/-- A numeral of expressions denotes a number, if its digits are within the limit. -/
theorem readNumber_of_isNumeral {chars : List Char} (isNumeral : IsNumeral chars)
    (short : (chars.filter isDigit).length ≤ digitLimit) :
    ∃ literal, readNumber (String.ofList chars) = .ok literal := by
  cases isNumeral with
  | whole negative isRow =>
      rename_i row
      have within : row.length ≤ digitLimit := by
        have kept : row.filter isDigit = row := List.filter_eq_self.2 isRow.digits
        cases negative <;> simpa [withMinus, kept, show isDigit '-' = false by decide] using short
      rw [readNumber_row negative isRow, if_neg (Nat.not_lt.2 within)]
      exact ⟨_, rfl⟩
  | fraction negative digits isRow =>
      obtain ⟨number, isNumber⟩ := readNumber_fraction negative digits isRow
      exact ⟨.float number, isNumber⟩

/-- Only a row of digits that is longer than the limit denotes no number. -/
theorem long_of_readNumber {chars : List Char} (isNumeral : IsNumeral chars) {fault : Fault}
    (failed : readNumber (String.ofList chars) = .error fault) :
    ∃ negative row, chars = withMinus negative row ∧ IsDigitRow row ∧ digitLimit < row.length ∧
      fault = .mishap (.numeral (.tooLongToRead row.length)) := by
  cases isNumeral with
  | whole negative isRow =>
      rename_i row
      rw [readNumber_row negative isRow] at failed
      split at failed
      · rename_i long
        cases failed
        exact ⟨negative, row, rfl, isRow, long, rfl⟩
      · cases failed
  | fraction negative digits isRow =>
      obtain ⟨number, isNumber⟩ := readNumber_fraction negative digits isRow
      cases failed.symm.trans isNumber

/-! ## Words -/

/-- The kind and the value of a token are those of a word of some expression text. -/
def Token.IsWord (token : Token) : Prop :=
  ∃ place text words, expressionTokens place text = .ok words ∧
    ∃ word ∈ words, word.kind = token.kind ∧ word.value = token.value

/-- Of all fronts of a text only numerals are numbers. -/
theorem isNumeral_of_front {previous : Option TokenKind} {char : Char} {rest more value : List Char}
    (isWord : front previous char rest = .word .number more value) : IsNumeral value := by
  unfold front at isWord
  split at isWord
  · cases isWord
  · split at isWord
    · split at isWord
      · cases isWord
      · cases isWord
    · split at isWord
      · rename_i number found
        cases isWord
        unfold numberInFront at found
        split at found
        · cases found
        · exact numberSpan_shape found
      · split at isWord
        · cases isWord
        · split at isWord
          · rename_i kind marked
            cases isWord
            exact absurd rfl (punctuation?_ne_word marked).1
          · cases isWord

theorem isNumeral_of_words {previous : Option TokenKind} {place : Position} {chars : List Char}
    {tokens : List Token} (found : words previous place chars = .ok tokens) :
    ∀ word ∈ tokens, word.kind = .number → IsNumeral word.value.toList := by
  fun_induction words previous place chars generalizing tokens with
  | case1 =>
      cases found
      simp
  | case2 _ _ _ _ _ inductionHypothesis => exact inductionHypothesis found
  | case3 => cases found
  | case4 => cases found
  | case5 previous place char rest kind more value isWord later laterFound inductionHypothesis =>
      cases found
      intro word member isNumber
      rcases List.mem_cons.1 member with rfl | member
      · cases isNumber
        rw [String.toList_ofList]
        exact isNumeral_of_front isWord
      · exact inductionHypothesis laterFound word member isNumber

/-- The numbers among the words of expressions denote numbers, as far as their digits are within the limit. -/
theorem Token.IsWord.readNumber {token : Token} (isWord : token.IsWord) (isNumber : token.kind = .number)
    (short : (token.value.toList.filter isDigit).length ≤ digitLimit) :
    ∃ literal, Template.readNumber token.value = .ok literal := by
  obtain ⟨place, text, tokens, found, word, member, sameKind, sameValue⟩ := isWord
  have isNumeral := isNumeral_of_words found word member (sameKind.trans isNumber)
  rw [sameValue] at isNumeral
  obtain ⟨literal, isRead⟩ := readNumber_of_isNumeral isNumeral short
  rw [String.ofList_toList] at isRead
  exact ⟨literal, isRead⟩

/-! ## Rows of words -/

/-- Words of expressions in any order, none of them a finish token, and numbers only with digits within the
limit. -/
structure IsWordRow (row : List Token) : Prop where
  unfinished : Unfinished row
  words : ∀ token ∈ row, token.IsWord
  short : ∀ token ∈ row, token.kind = .number → (token.value.toList.filter isDigit).length ≤ digitLimit

/-- The words of a text in front of their finish token. -/
theorem isWordRow_of_expressionTokens {place : Position} {text : String} {row : List Token} {finish : Token}
    (found : expressionTokens place text = .ok (row ++ [finish])) (unfinished : Unfinished row)
    (short : ∀ token ∈ row, token.kind = .number → (token.value.toList.filter isDigit).length ≤ digitLimit) :
    IsWordRow row where
  unfinished := unfinished
  words token member :=
    ⟨place, text, row ++ [finish], found, token, List.mem_append_left [finish] member, rfl, rfl⟩
  short := short

/-- The tokens under the head of a cursor and behind it are tokens of a row. -/
def Cursor.StaysIn (row : List Token) (cursor : Cursor) : Prop :=
  ∀ token ∈ cursor.current :: cursor.following, token ∈ row

theorem keptByDescent_staysIn (row : List Token) :
    KeptByDescent (Cursor.StaysIn row) fun fault => ∀ cause, fault = .mishap (.numeral cause) →
      ∃ token ∈ row, token.kind = .number ∧ readNumber token.value = .error fault where
  advance := by
    rintro ⟨current, following⟩ staysIn
    unfold Cursor.advance
    split
    · exact staysIn
    · split
      · exact staysIn
      · rename_i next rest isFollowing
        subst isFollowing
        intro token member
        exact staysIn token (List.mem_cons_of_mem current member)
  fault _ _ _ _ := nofun
  number cursor fault staysIn isNumber failed _ _ :=
    ⟨cursor.current, staysIn cursor.current List.mem_cons_self, isNumber, failed⟩
  endless _ := nofun

/-- A row of tokens that is refused for a numeral has it as one of its numbers. -/
theorem numeral_of_ofTokens {tokens : List Token} {cause : NumeralError}
    (failed : Pipeline.ofTokens tokens = .error (.mishap (.numeral cause))) :
    ∃ token ∈ tokens, token.kind = .number ∧
      readNumber token.value = .error (.mishap (.numeral cause)) := by
  cases tokens with
  | nil => cases failed
  | cons first rest =>
      have staysIn : Cursor.StaysIn (first :: rest) ⟨first, rest⟩ := fun _ member => member
      exact (keptByDescent_staysIn (first :: rest)).allowed_of_ofTokens staysIn failed cause rfl

/-- A row of words is read, or it is malformed. -/
theorem IsWordRow.malformed {row : List Token} {finish : Token} (isRow : IsWordRow row)
    (ends : finish.kind = .finish) {fault : Fault} (failed : Pipeline.ofTokens (row ++ [finish]) = .error fault) :
    ∃ error, fault = .malformed error := by
  have isFault := @isFaultAt_of_ofTokens (fun _ => True) row finish ends (fun _ _ => trivial) fault failed
  rcases isFault with ⟨error, isMalformed, -⟩ | ⟨cause, rfl⟩
  · exact ⟨error, isMalformed⟩
  · exfalso
    obtain ⟨token, member, isNumber, unread⟩ := numeral_of_ofTokens failed
    rcases List.mem_append.1 member with member | member
    · obtain ⟨literal, isRead⟩ := (isRow.words token member).readNumber isNumber (isRow.short token member isNumber)
      cases unread.symm.trans isRead
    · rw [List.mem_singleton.1 member, ends] at isNumber
      cases isNumber

/-! ## Names alone -/

/-- The grammar gives a row of words one tree at most. -/
theorem Spells.expression_unique {row : List Token} {pipeline other : Pipeline} (unfinished : Unfinished row)
    (spelled : Spells row (.expression pipeline)) (spelled' : Spells row (.expression other)) :
    pipeline = other := by
  let finish : Token := ⟨.finish, "", .start⟩
  have read : Pipeline.ofTokens (row ++ [finish]) = .ok pipeline :=
    (Pipeline.ofTokens_eq_ok_iff unfinished rfl).2 spelled
  have read' : Pipeline.ofTokens (row ++ [finish]) = .ok other :=
    (Pipeline.ofTokens_eq_ok_iff unfinished rfl).2 spelled'
  exact Except.ok.inj (read.symm.trans read')

theorem Spells.name {word : Token} (isName : word.kind = .identifier) (notKeyword : keyword? word.value = none) :
    Spells [word] (.expression ⟨.path word.value [], []⟩) :=
  (Spells.path isName notKeyword .noSegments).whole

/-- A name alone stands for an entry of that name, with the path of the name as its value. -/
theorem Spells.shorthand_iff {key : Token} {entry : String × Expr} (isName : key.kind = .identifier) :
    Spells [key] (.entry entry) ↔ entry = (key.value, .path key.value []) := by
  constructor
  · intro spelled
    generalize isRow : [key] = row at spelled
    generalize isPhrase : Phrase.entry entry = phrase at spelled
    cases spelled <;> cases isPhrase <;> cases isRow
    rfl
  · rintro rfl
    exact .shorthand isName

theorem Spells.keyValue_iff {key colon : Token} {rest : List Token} {entry : String × Expr}
    (isName : key.kind = .identifier) (isColon : colon.kind = .colon) :
    Spells (key :: colon :: rest) (.entry entry) ↔
      ∃ pipeline, Spells rest (.expression pipeline) ∧ entry = (key.value, pipeline.toExpr) := by
  constructor
  · intro spelled
    generalize isRow : key :: colon :: rest = row at spelled
    generalize isPhrase : Phrase.entry entry = phrase at spelled
    cases spelled <;> cases isPhrase <;> cases isRow
    exact ⟨_, ‹Spells rest _›, rfl⟩
  · rintro ⟨pipeline, valueSpelled, rfl⟩
    exact .keyValue (.inl isName) isColon valueSpelled

/-- A name alone stands for what the same name behind a colon would stand for, unless it is a keyword. -/
theorem Spells.shorthand_iff_keyValue {key colon : Token} {entry : String × Expr}
    (isName : key.kind = .identifier) (isColon : colon.kind = .colon) (notKeyword : keyword? key.value = none) :
    Spells [key] (.entry entry) ↔ Spells [key, colon, key] (.entry entry) := by
  have named := Spells.name isName notKeyword
  have unfinished : Unfinished [key] := by
    intro token member
    rw [List.mem_singleton.1 member, isName]
    decide
  rw [Spells.shorthand_iff isName, Spells.keyValue_iff isName isColon]
  constructor
  · rintro rfl
    exact ⟨_, named, rfl⟩
  · rintro ⟨pipeline, spelled, rfl⟩
    rw [← named.expression_unique unfinished spelled]
    rfl

/-! ## Expressions -/

/-- Reading accepts exactly the grammar. A row of words in front of a finish token is read as an expression if
and only if the grammar spells it, as the one tree that the grammar gives; any other row is malformed. In an
object a name alone is an entry with the path of that name, which is what the name behind a colon would be read
as too, unless the name is a keyword. -/
theorem Pipeline.ofTokens_accepts {row : List Token} {finish : Token} (isRow : IsWordRow row)
    (ends : finish.kind = .finish) :
    (∀ pipeline, Pipeline.ofTokens (row ++ [finish]) = .ok pipeline ↔ Spells row (.expression pipeline)) ∧
      ((¬ ∃ pipeline, Spells row (.expression pipeline)) →
        ∃ error, Pipeline.ofTokens (row ++ [finish]) = .error (.malformed error)) ∧
      ∀ key colon : Token, key.kind = .identifier → colon.kind = .colon →
        (∀ entry, Spells [key] (.entry entry) ↔ entry = (key.value, .path key.value [])) ∧
          (keyword? key.value = none →
            ∀ entry, Spells [key] (.entry entry) ↔ Spells [key, colon, key] (.entry entry)) := by
  have accepts : ∀ pipeline,
      Pipeline.ofTokens (row ++ [finish]) = .ok pipeline ↔ Spells row (.expression pipeline) :=
    fun pipeline => Pipeline.ofTokens_eq_ok_iff isRow.unfinished ends
  refine ⟨accepts, ?_, ?_⟩
  · intro noTree
    cases read : Pipeline.ofTokens (row ++ [finish]) with
    | ok pipeline => exact absurd ⟨pipeline, (accepts pipeline).1 read⟩ noTree
    | error fault =>
        obtain ⟨error, rfl⟩ := isRow.malformed ends read
        exact ⟨error, rfl⟩
  · intro key colon isName isColon
    exact ⟨fun _ => Spells.shorthand_iff isName,
      fun notKeyword _ => Spells.shorthand_iff_keyValue isName isColon notKeyword⟩

theorem Pipeline.ofTokens_accepts_at_object :
    let row : List Token :=
      [⟨.leftBrace, "\x7b", ⟨0, 1, 1⟩⟩, ⟨.identifier, "b", ⟨2, 1, 3⟩⟩, ⟨.comma, ",", ⟨3, 1, 4⟩⟩,
        ⟨.string, "c", ⟨5, 1, 6⟩⟩, ⟨.colon, ":", ⟨8, 1, 9⟩⟩, ⟨.identifier, "rows", ⟨10, 1, 11⟩⟩,
        ⟨.dot, ".", ⟨14, 1, 15⟩⟩, ⟨.number, "0.1", ⟨15, 1, 16⟩⟩, ⟨.comma, ",", ⟨18, 1, 19⟩⟩,
        ⟨.rightBrace, "\x7d", ⟨20, 1, 21⟩⟩]
    expressionTokens .start "\x7b b, 'c': rows.0.1, \x7d" = .ok (row ++ [⟨.finish, "", ⟨21, 1, 22⟩⟩]) ∧
      Spells row
        (.expression ⟨.object [("b", .path "b" []), ("c", .path "rows" [.property "0", .property "1"])], []⟩) := by
  intro row
  have found : expressionTokens .start "\x7b b, 'c': rows.0.1, \x7d" =
      .ok (row ++ [⟨.finish, "", ⟨21, 1, 22⟩⟩]) := by
    decide +kernel
  have unfinished : Unfinished row := by
    unfold Unfinished
    decide +kernel
  have isRow : IsWordRow row := isWordRow_of_expressionTokens found unfinished (by decide +kernel)
  have accepts := @Pipeline.ofTokens_accepts row ⟨.finish, "", ⟨21, 1, 22⟩⟩ isRow rfl
  refine ⟨found, ?_⟩
  apply (accepts.1 _).1
  rfl

/-- A keyword alone in an object is the path of that name, and behind a colon it is the literal. -/
theorem Pipeline.ofTokens_at_keyword_shorthand :
    Pipeline.ofTokens
        [⟨.leftBrace, "\x7b", ⟨0, 1, 1⟩⟩, ⟨.identifier, "true", ⟨2, 1, 3⟩⟩, ⟨.rightBrace, "\x7d", ⟨7, 1, 8⟩⟩,
          ⟨.finish, "", ⟨8, 1, 9⟩⟩] =
        .ok ⟨.object [("true", .path "true" [])], []⟩ ∧
      Pipeline.ofTokens
        [⟨.leftBrace, "\x7b", ⟨0, 1, 1⟩⟩, ⟨.identifier, "true", ⟨2, 1, 3⟩⟩, ⟨.colon, ":", ⟨6, 1, 7⟩⟩,
          ⟨.identifier, "true", ⟨8, 1, 9⟩⟩, ⟨.rightBrace, "\x7d", ⟨13, 1, 14⟩⟩, ⟨.finish, "", ⟨14, 1, 15⟩⟩] =
        .ok ⟨.object [("true", .literal (.bool true))], []⟩ :=
  ⟨rfl, rfl⟩

/-! ## Texts -/

theorem parseExpressionText_of_tokens {text : String} {tokens : List Token}
    (found : expressionTokens .start text = .ok tokens) : parseExpressionText text = Pipeline.ofTokens tokens := by
  rw [parseExpressionText, Pipeline.readAt, found]

theorem row_of_parseExpressionText {text : String} {pipeline : Pipeline}
    (read : parseExpressionText text = .ok pipeline) :
    ∃ row finish, expressionTokens .start text = .ok (row ++ [finish]) ∧ finish.kind = .finish ∧
      Spells row (.expression pipeline) := by
  unfold parseExpressionText Pipeline.readAt at read
  split at read
  · rename_i tokens found
    obtain ⟨row, finish, rfl, ends, unfinished⟩ := (lexes_of_words found).ends
    exact ⟨row, finish, found, ends, (Pipeline.ofTokens_eq_ok_iff unfinished ends).1 read⟩
  · cases read

/-- The last token of a text is its finish token, and no other one is. -/
theorem ends_of_words {previous : Option TokenKind} {place : Position} {chars : List Char} {row : List Token}
    {finish : Token} (found : words previous place chars = .ok (row ++ [finish])) :
    finish.kind = .finish ∧ Unfinished row := by
  obtain ⟨row', finish', sameTokens, ends, unfinished⟩ := (lexes_of_words found).ends
  obtain ⟨rfl, sameFinish⟩ := List.append_inj' sameTokens rfl
  cases sameFinish
  exact ⟨ends, unfinished⟩

/-- A text whose words the grammar spells is read as the tree that it gives. -/
theorem parseExpressionText_of_spells {text : String} {row : List Token} {finish : Token} {pipeline : Pipeline}
    (found : expressionTokens .start text = .ok (row ++ [finish])) (spelled : Spells row (.expression pipeline)) :
    parseExpressionText text = .ok pipeline := by
  obtain ⟨ends, unfinished⟩ := ends_of_words found
  rw [parseExpressionText_of_tokens found]
  exact (Pipeline.ofTokens_eq_ok_iff unfinished ends).2 spelled

end Folio.Template
