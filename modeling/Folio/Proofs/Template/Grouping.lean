import Folio.Proofs.Template.Acceptance
import Folio.Proofs.Template.Lookahead

/-!
Contract: expressions in parentheses, and expressions with more stages behind them.

Owns: that two phrases of one form in front of the same row are the same phrase; which stages stand behind an
expression that is read by itself; and that a text which is read is read in parentheses as well, whatever stages
stand behind it.

Does not own: the values of such texts.
-/

namespace Folio.Template

open Folio.Text

/-! ## Phrases in front of a row -/

theorem Cursor.over_injective {finish : Token} {row other : List Token}
    (same : Cursor.over finish row = Cursor.over finish other) : row = other := by
  cases row with
  | nil =>
      cases other with
      | nil => rfl
      | cons token other => simp [Cursor.over] at same
  | cons token row =>
      cases other with
      | nil => simp [Cursor.over] at same
      | cons token' other => simpa [Cursor.over] using same

/-- A bar or the end of the row stands next. -/
def Cursor.AtBar (cursor : Cursor) : Prop :=
  cursor.kind = .pipe ∨ cursor.kind = .finish

/-- In front of a bar or the end of a row there is one phrase of a form at most, if the descent reads no two of them
at one cursor and neither a bar nor the end goes on with one. -/
theorem Spells.front_unique {Tree : Type} (form : Tree → Phrase) (finish : Token)
    (single : ∀ {depth cursor after after'} {tree tree' : Tree},
      Reads depth (form tree) cursor after → Reads depth (form tree') cursor after' →
        tree = tree' ∧ after = after')
    (mayEnd : ∀ tree, (form tree).mayPrecede .pipe = true ∧ (form tree).mayPrecede .finish = true)
    {front back front' back' : List Token} {tree tree' : Tree} (spelled : Spells front (form tree))
    (spelled' : Spells front' (form tree')) (same : front ++ back = front' ++ back')
    (next : (Cursor.over finish back).AtBar) (next' : (Cursor.over finish back').AtBar) :
    tree = tree' ∧ back = back' := by
  have mayFollow : ∀ {back tree}, (Cursor.over finish back).AtBar →
      (form tree).mayPrecede (Cursor.over finish back).kind = true := by
    rintro back tree (piped | ended)
    · rw [piped]
      exact (mayEnd tree).1
    · rw [ended]
      exact (mayEnd tree).2
  let depth := 4 * front.length + (form tree).margin + (4 * front'.length + (form tree').margin)
  have read := spelled.isRead finish depth back (Nat.le_add_right _ _) (mayFollow next)
  have read' := spelled'.isRead finish depth back' (Nat.le_add_left _ _) (mayFollow next')
  rw [← same] at read'
  obtain ⟨sameTree, sameCursor⟩ := single read read'
  exact ⟨sameTree, Cursor.over_injective sameCursor⟩

theorem Spells.expression_parts {row : List Token} {pipeline : Pipeline} (spelled : Spells row (.expression pipeline)) :
    ∃ front back, row = front ++ back ∧ Spells front (.primary pipeline.root) ∧
      Spells back (.stages pipeline.stages) := by
  cases spelled with
  | expression rootSpelled stagesSpelled => exact ⟨_, _, rfl, rootSpelled, stagesSpelled⟩

theorem Spells.stages_parts {bar : Token} {rest : List Token} {stages : List Stage}
    (spelled : Spells (bar :: rest) (.stages stages)) :
    ∃ name inside behind arguments others, rest = name :: (inside ++ behind) ∧
      Spells inside (.argumentList name.value arguments) ∧ Spells behind (.stages others) ∧
        stages = .mk name.value arguments name.place.line name.place.column :: others := by
  generalize isRow : bar :: rest = row at spelled
  cases spelled with
  | noStages => cases isRow
  | stage _ _ argumentsSpelled stagesSpelled =>
      cases isRow
      exact ⟨_, _, _, _, _, rfl, argumentsSpelled, stagesSpelled, rfl⟩

/-! ## More stages -/

section Stages

variable {bar finish : Token} {row rest : List Token} {stages : List Stage}

/-- Stages start with a bar, and so does what stands behind them in front of one. -/
theorem Spells.atBar_append (spelled : Spells row (.stages stages)) (isBar : bar.kind = .pipe) :
    (Cursor.over finish (row ++ bar :: rest)).AtBar := by
  rcases spelled.stages_next finish (bar :: rest) with rfl | piped
  · exact .inl isBar
  · exact .inl piped

theorem Spells.atBar (spelled : Spells row (.stages stages)) (ends : finish.kind = .finish) :
    (Cursor.over finish row).AtBar := by
  rcases spelled.stages_next finish [] with rfl | piped
  · exact .inr ends
  · rw [List.append_nil] at piped
    exact .inl piped

/-- Stages up to a bar are the first of all stages of a row. -/
theorem Spells.stages_append {whole : List Stage} (spelled : Spells row (.stages stages))
    (isBar : bar.kind = .pipe) (spelledWhole : Spells (row ++ bar :: rest) (.stages whole)) :
    ∃ more, Spells (bar :: rest) (.stages more) ∧ whole = stages ++ more := by
  let finish : Token := ⟨.finish, "", .start⟩
  induction stages generalizing row whole with
  | nil =>
      cases spelled with
      | noStages => exact ⟨whole, spelledWhole, rfl⟩
  | cons first stages inductionHypothesis =>
      cases spelled with
      | @stage _ name inside behind arguments _ _ _ argumentsSpelled stagesSpelled =>
          rw [List.cons_append, List.cons_append, List.append_assoc] at spelledWhole
          obtain ⟨name', inside', behind', arguments', others, isRow, argumentsSpelled', othersSpelled, rfl⟩ :=
            spelledWhole.stages_parts
          obtain ⟨rfl, sameRow⟩ := List.cons.inj isRow
          obtain ⟨rfl, rfl⟩ := Spells.front_unique (Phrase.argumentList name.value) finish
            (fun read read' => Prod.mk.inj (Except.ok.inj (read.symm.trans read'))) (fun _ => ⟨rfl, rfl⟩)
            argumentsSpelled argumentsSpelled' sameRow (stagesSpelled.atBar_append isBar) (othersSpelled.atBar rfl)
          obtain ⟨more, moreSpelled, rfl⟩ := inductionHypothesis stagesSpelled othersSpelled
          exact ⟨more, moreSpelled, rfl⟩

/-- An expression up to a bar is the first part of the whole row, and behind it stand more stages. -/
theorem Spells.expression_append {pipeline whole : Pipeline} (spelled : Spells row (.expression pipeline))
    (isBar : bar.kind = .pipe) (spelledWhole : Spells (row ++ bar :: rest) (.expression whole)) :
    ∃ more, Spells (bar :: rest) (.stages more) ∧ whole = ⟨pipeline.root, pipeline.stages ++ more⟩ := by
  let finish : Token := ⟨.finish, "", .start⟩
  obtain ⟨root, stages⟩ := pipeline
  obtain ⟨root', stages'⟩ := whole
  obtain ⟨front, back, rfl, rootSpelled, stagesSpelled⟩ := spelled.expression_parts
  obtain ⟨front', back', isRow, rootSpelled', stagesSpelled'⟩ := spelledWhole.expression_parts
  rw [List.append_assoc] at isRow
  obtain ⟨rfl, rfl⟩ := Spells.front_unique Phrase.primary finish
    (fun read read' => Prod.mk.inj (Except.ok.inj (read.symm.trans read'))) (fun _ => ⟨rfl, rfl⟩)
    rootSpelled rootSpelled' isRow (stagesSpelled.atBar_append isBar) (stagesSpelled'.atBar rfl)
  obtain ⟨more, moreSpelled, rfl⟩ := stagesSpelled.stages_append isBar stagesSpelled'
  exact ⟨more, moreSpelled, rfl⟩

end Stages

/-! ## Texts -/

/-- Of the word in front only whether it ends a value has a say in the words behind it. -/
theorem words_previous {previous previous' : Option TokenKind} (same : endsValue previous = endsValue previous')
    (place : Position) (chars : List Char) : words previous place chars = words previous' place chars := by
  induction chars generalizing place with
  | nil => rw [words, words]
  | cons char rest inductionHypothesis =>
      have sameFront : front previous char rest = front previous' char rest := by
        rw [front, front, numberInFront, numberInFront, same]
      rw [words.eq_2, words.eq_2, sameFront]
      cases front previous' char rest with
      | blank => exact inductionHypothesis (place.after char)
      | fault cause => rfl
      | word kind more value => rfl

theorem endsWords_blank : EndsWords ' ' :=
  ⟨by decide, by decide, by decide, by decide⟩

theorem endsWords_closing : EndsWords ')' :=
  ⟨by decide, by decide, by decide, by decide⟩

/-- A bar between blanks is the same word behind every other. -/
theorem scans_bar (previous : Option TokenKind) (place : Position) (rest : List Char) :
    Scans previous place " | ".toList [⟨.pipe, "|", place.after ' '⟩] (some .pipe) rest := by
  have bar : Scans previous (place.after ' ') ['|'] [⟨.pipe, "|", place.after ' '⟩] (some .pipe) ([' '] ++ rest) :=
    words_mark _ _ (by rfl) (by decide) _
  exact (Scans.of_blank (by decide)).append (bar.append (Scans.of_blank (by decide)))

/-- What stands behind an expression and a bar is a row of stages, if the whole text is read. They are the last stages
of the whole expression. -/
theorem stages_of_parseExpressionText {text filters : String} {pipeline whole : Pipeline}
    (read : parseExpressionText text = .ok pipeline)
    (readWhole : parseExpressionText (text ++ " | " ++ filters) = .ok whole) :
    ∃ place row finish stages, words (some .rightParen) place (" | " ++ filters).toList = .ok (row ++ [finish]) ∧
      Spells row (.stages stages) ∧ whole = ⟨pipeline.root, pipeline.stages ++ stages⟩ := by
  obtain ⟨row, finish, found, -, spelled⟩ := row_of_parseExpressionText read
  obtain ⟨rowWhole, finishWhole, foundWhole, -, spelledWhole⟩ := row_of_parseExpressionText readWhole
  obtain ⟨-, last, scans⟩ := scans_of_words found
  let place := Position.start.past text.toList
  let bar : Token := ⟨.pipe, "|", place.after ' '⟩
  have inFront := (scans ' ' endsWords_blank ("| ".toList ++ filters.toList)).append
    (scans_bar last place filters.toList)
  have isText : text.toList ++ " | ".toList ++ filters.toList = (text ++ " | " ++ filters).toList := by simp
  rw [Scans, isText, ← expressionTokens, foundWhole] at inFront
  obtain ⟨behind, behindFound, isRow⟩ := map_eq_ok.1 inFront.symm
  obtain ⟨rest, finish', rfl, -, -⟩ := (lexes_of_words behindFound).ends
  rw [← List.append_assoc] at isRow
  obtain ⟨isRow, -⟩ := List.append_inj' isRow rfl
  rw [← isRow, List.append_assoc] at spelledWhole
  have isBar : bar.kind = .pipe := rfl
  obtain ⟨stages, stagesSpelled, isWhole⟩ := spelled.expression_append isBar spelledWhole
  have barFound := scans_bar (some .rightParen) place filters.toList
  rw [Scans, ← Position.past_append, behindFound, ← String.toList_append] at barFound
  exact ⟨place, bar :: rest, finish', stages, barFound, stagesSpelled, isWhole⟩

/-- The words of a text in parentheses are those of the text, elsewhere, between two parentheses. -/
theorem scans_grouped {text : String} {row : List Token} {finish : Token}
    (found : expressionTokens .start text = .ok (row ++ [finish])) :
    ∃ opening inside closing, opening.kind = .leftParen ∧ closing.kind = .rightParen ∧
      inside.map (Token.relocate .forget) = row.map (Token.relocate .forget) ∧
        ∀ rest, Scans none .start ("(" ++ text ++ ")").toList (opening :: (inside ++ [closing])) (some .rightParen)
          rest := by
  let place := Position.start.after '('
  obtain ⟨tokens, foundInside, alike⟩ := words_elsewhere found place
  have sameEnd : endsValue none = endsValue (some .leftParen) := rfl
  rw [words_previous sameEnd] at foundInside
  obtain ⟨inside, finish', rfl, -, -⟩ := (lexes_of_words foundInside).ends
  rw [List.map_append, List.map_append] at alike
  obtain ⟨-, last, scans⟩ := scans_of_words foundInside
  let opening : Token := ⟨.leftParen, "(", .start⟩
  let closing : Token := ⟨.rightParen, ")", place.past text.toList⟩
  refine ⟨opening, inside, closing, rfl, rfl, (List.append_inj' alike rfl).1, fun rest => ?_⟩
  have opens : Scans none .start ['('] [opening] (some .leftParen) (text.toList ++ [')'] ++ rest) :=
    words_mark _ _ (by rfl) (by decide) _
  have closes : Scans last (place.past text.toList) [')'] [closing] (some .rightParen) rest :=
    words_mark _ _ (by rfl) (by decide) _
  have whole := opens.append ((scans ')' endsWords_closing rest).append closes)
  simpa using whole

/-- A text that is read is read in parentheses as well, with any stages behind it: as a pipeline whose root is the
whole expression. -/
theorem parseExpressionText_grouped {text behind : String} {pipeline : Pipeline} {place : Position}
    {row : List Token} {finish : Token} {stages : List Stage} (read : parseExpressionText text = .ok pipeline)
    (found : words (some .rightParen) place behind.toList = .ok (row ++ [finish]))
    (spelled : Spells row (.stages stages)) :
    ∃ grouped, parseExpressionText ("(" ++ text ++ ")" ++ behind) = .ok grouped ∧
      grouped.unplaced = (⟨pipeline.toExpr, stages⟩ : Pipeline).unplaced := by
  obtain ⟨front, finishFront, foundFront, -, spelledFront⟩ := row_of_parseExpressionText read
  obtain ⟨opening, inside, closing, isOpening, isClosing, alikeInside, scans⟩ := scans_grouped foundFront
  obtain ⟨tokens, foundBehind, alikeBehind⟩ :=
    words_elsewhere found (Position.start.past ("(" ++ text ++ ")").toList)
  have isFound : expressionTokens .start ("(" ++ text ++ ")" ++ behind) =
      .ok (opening :: (inside ++ [closing]) ++ tokens) := by
    have whole := scans behind.toList
    rw [Scans, foundBehind, ← String.toList_append] at whole
    exact whole
  -- In their old places the words spell the whole expression, and reading does not see the places.
  have spelledWhole : Spells (opening :: (front ++ [closing]) ++ row) (.expression ⟨pipeline.toExpr, stages⟩) :=
    .expression (.group isOpening spelledFront isClosing) spelled
  obtain ⟨-, frontUnfinished⟩ := ends_of_words foundFront
  obtain ⟨ends, rowUnfinished⟩ := ends_of_words found
  have unfinished : Unfinished (opening :: (front ++ [closing]) ++ row) := by
    intro token member
    simp only [List.mem_append, List.mem_cons, List.not_mem_nil, or_false] at member
    rcases member with (rfl | inFront | rfl) | inRow
    · rw [isOpening]
      decide
    · exact frontUnfinished token inFront
    · rw [isClosing]
      decide
    · exact rowUnfinished token inRow
  have isRead := (Pipeline.ofTokens_eq_ok_iff unfinished ends).2 spelledWhole
  have alike : (opening :: (inside ++ [closing]) ++ tokens).map (Token.relocate .forget) =
      (opening :: (front ++ [closing]) ++ row ++ [finish]).map (Token.relocate .forget) := by
    simp [alikeInside, alikeBehind]
  rw [parseExpressionText_of_tokens isFound]
  exact Pipeline.ofTokens_unplaced isRead alike

end Folio.Template
