import Folio.Proofs.Template.Grammar

/-!
Contract: names alone in objects, written out.

Owns: which names of a row of tokens are entries of an object by themselves, told by the brackets that are open
around them and the tokens beside them; and that a row which the grammar spells is spelled again where such names
are written out, as `k: k`, with the same tree if none of them is a keyword.

Does not own: what writing out does to a text.
-/

namespace Folio.Template

/-! ## Brackets -/

/-- The brackets that are open behind a token, the innermost first. -/
def TokenKind.bracketsBehind (kind : TokenKind) (opened : List TokenKind) : List TokenKind :=
  match kind with
  | .leftParen | .leftBracket | .leftBrace => kind :: opened
  | .rightParen | .rightBracket | .rightBrace => opened.tail
  | _ => opened

def openBrackets (opened : List TokenKind) : List Token → List TokenKind
  | [] => opened
  | token :: rest => openBrackets (token.kind.bracketsBehind opened) rest

theorem openBrackets_append (opened : List TokenKind) (front back : List Token) :
    openBrackets opened (front ++ back) = openBrackets (openBrackets opened front) back := by
  induction front generalizing opened with
  | nil => rfl
  | cons token front inductionHypothesis => exact inductionHypothesis _

/-! ## Names alone -/

/-- A name alone in an object: a name in a brace, behind the brace or a comma and in front of a comma or the closing
brace. -/
structure IsShorthand (before : List Token) (key : Token) (after : List Token) : Prop where
  name : key.kind = .identifier
  inObject : (openBrackets [] before).head? = some .leftBrace
  starts : ∃ mark ∈ before.getLast?, mark.kind = .leftBrace ∨ mark.kind = .comma
  ends : ∃ mark ∈ after.head?, mark.kind = .comma ∨ mark.kind = .rightBrace

/-- Writes every marked name out. -/
def writeOut (marked : Token → Bool) (colon : Token) (row : List Token) : List Token :=
  row.flatMap fun token => if marked token then [token, colon, token] else [token]

/-- Only names are marked that start an entry and have no colon behind them. In front of the row the brackets
`opened` are open, and a token of the kind `previous` stands there, if any. -/
def MarksShorthands (marked : Token → Bool) : List TokenKind → Option TokenKind → List Token → Prop
  | _, _, [] => True
  | opened, previous, token :: rest =>
      (marked token = true →
        token.kind = .identifier ∧ opened.head? = some .leftBrace ∧
          (previous = some .leftBrace ∨ previous = some .comma) ∧ ∀ next ∈ rest.head?, next.kind ≠ .colon) ∧
        MarksShorthands marked (token.kind.bracketsBehind opened) (some token.kind) rest

section Marks

variable {marked : Token → Bool} {colon : Token} {opened : List TokenKind} {previous : Option TokenKind}
  {token : Token} {row front back rest : List Token} {kind : TokenKind}

theorem writeOut_append : writeOut marked colon (front ++ back) =
    writeOut marked colon front ++ writeOut marked colon back :=
  List.flatMap_append

theorem writeOut_unmarked (unmarked : marked token = false) :
    writeOut marked colon (token :: rest) = token :: writeOut marked colon rest := by
  simp [writeOut, unmarked]

theorem writeOut_marked (isMarked : marked token = true) :
    writeOut marked colon (token :: rest) = token :: colon :: token :: writeOut marked colon rest := by
  simp [writeOut, isMarked]

theorem MarksShorthands.append (marks : MarksShorthands marked opened previous (front ++ back)) :
    MarksShorthands marked opened previous front ∧
      ∃ behind, MarksShorthands marked (openBrackets opened front) behind back := by
  induction front generalizing opened previous with
  | nil => exact ⟨trivial, previous, marks⟩
  | cons token front inductionHypothesis =>
      rw [List.cons_append] at marks
      obtain ⟨frontMarks, backMarks⟩ := inductionHypothesis marks.2
      refine ⟨⟨fun isMarked => ?_, frontMarks⟩, backMarks⟩
      obtain ⟨isName, inObject, starts, noColon⟩ := marks.1 isMarked
      refine ⟨isName, inObject, starts, fun next isNext => noColon next ?_⟩
      rw [List.head?_append, isNext]
      rfl

/-- A token that starts no entry is left as it is. -/
theorem MarksShorthands.skip (marks : MarksShorthands marked opened previous (token :: rest))
    (isKind : token.kind = kind)
    (noStart : kind = .identifier → opened.head? = some .leftBrace →
      previous ≠ some .leftBrace ∧ previous ≠ some .comma) :
    writeOut marked colon (token :: rest) = token :: writeOut marked colon rest ∧
      MarksShorthands marked (kind.bracketsBehind opened) (some kind) rest := by
  subst isKind
  refine ⟨writeOut_unmarked (eq_false_of_ne_true fun isMarked => ?_), marks.2⟩
  obtain ⟨isName, inObject, starts, -⟩ := marks.1 isMarked
  obtain ⟨noBrace, noComma⟩ := noStart isName inObject
  exact starts.elim noBrace noComma

/-- A row between two marks that are an opening and a closing bracket. -/
theorem MarksShorthands.between {opening closing : Token} {inside : List Token} {openingKind closingKind : TokenKind}
    (marks : MarksShorthands marked opened previous (opening :: (inside ++ [closing])))
    (opens : opening.kind = openingKind) (openingNoName : openingKind ≠ .identifier)
    (closes : closing.kind = closingKind) (closingNoName : closingKind ≠ .identifier) :
    writeOut marked colon (opening :: (inside ++ [closing])) =
        opening :: (writeOut marked colon inside ++ [closing]) ∧
      MarksShorthands marked (openingKind.bracketsBehind opened) (some openingKind) inside := by
  obtain ⟨openingSkipped, marks⟩ := marks.skip opens (fun isName => absurd isName openingNoName)
  obtain ⟨insideMarks, behind, closingMarks⟩ := marks.append
  obtain ⟨closingSkipped, -⟩ := closingMarks.skip closes (fun isName => absurd isName closingNoName)
  refine ⟨?_, insideMarks⟩
  rw [openingSkipped, writeOut_append, closingSkipped]
  rfl

/-- Two rows with a comma between. -/
theorem MarksShorthands.around_comma {comma : Token} (isComma : comma.kind = .comma)
    (balanced : openBrackets opened front = opened)
    (marks : MarksShorthands marked opened previous (front ++ comma :: rest)) :
    writeOut marked colon (front ++ comma :: rest) =
        writeOut marked colon front ++ comma :: writeOut marked colon rest ∧
      MarksShorthands marked opened previous front ∧ MarksShorthands marked opened (some .comma) rest := by
  obtain ⟨frontMarks, behind, marks⟩ := marks.append
  rw [balanced] at marks
  obtain ⟨commaSkipped, restMarks⟩ := marks.skip isComma (by nofun)
  refine ⟨?_, frontMarks, restMarks⟩
  rw [writeOut_append, commaSkipped]

end Marks

section Balanced

variable {opened : List TokenKind} {front inside rest : List Token}

theorem openBrackets_between {opening closing : Token} (balanced : ∀ opened, openBrackets opened inside = opened)
    (closes : closing.kind.bracketsBehind (opening.kind.bracketsBehind opened) = opened) :
    openBrackets opened (opening :: (inside ++ [closing])) = opened := by
  rw [openBrackets, openBrackets_append, balanced]
  exact closes

theorem openBrackets_around_comma {comma : Token} (isComma : comma.kind = .comma)
    (balanced : openBrackets opened front = opened) (restBalanced : openBrackets opened rest = opened) :
    openBrackets opened (front ++ comma :: rest) = opened := by
  rw [openBrackets_append, balanced, openBrackets, isComma]
  exact restBalanced

end Balanced

/-! ## Phrases written out -/

/-- Where a phrase may stand so that none of its names alone is taken for an entry: in a brace an expression stands
behind a colon only, arguments stand in parentheses and items in brackets. -/
def Phrase.Fits (opened : List TokenKind) (previous : Option TokenKind) : Phrase → Prop
  | .expression _ | .primary _ => opened.head? = some .leftBrace → previous = some .colon
  | .arguments _ => opened.head? = some .leftParen
  | .items _ => opened.head? = some .leftBracket
  | _ => True

/-- A row spells a phrase of the same form, and the same phrase under a condition. -/
def SpellsForm (same : Prop) (row : List Token) : Phrase → Prop
  | .expression pipeline => ∃ other, Spells row (.expression other) ∧ (same → other = pipeline)
  | .stages stages => ∃ other, Spells row (.stages other) ∧ (same → other = stages)
  | .argumentList filter arguments =>
      ∃ other, Spells row (.argumentList filter other) ∧ (same → other = arguments)
  | .arguments arguments => ∃ other, Spells row (.arguments other) ∧ (same → other = arguments)
  | .primary expr => ∃ other, Spells row (.primary other) ∧ (same → other = expr)
  | .segments segments => ∃ other, Spells row (.segments other) ∧ (same → other = segments)
  | .items items => ∃ other, Spells row (.items other) ∧ (same → other = items)
  | .entries entries => ∃ other, Spells row (.entries other) ∧ (same → other = entries)
  | .entry entry => ∃ other, Spells row (.entry other) ∧ (same → other = entry)

/-- The marked names of a row that spells a phrase can be written out: the row closes the brackets that it opens,
and written out it spells the phrase again, wherever the phrase fits. -/
structure WritesOut (marked : Token → Bool) (colon : Token) (same : Prop) (row : List Token) (phrase : Phrase) :
    Prop where
  balanced : ∀ opened, openBrackets opened row = opened
  written : ∀ opened previous, phrase.Fits opened previous → MarksShorthands marked opened previous row →
    SpellsForm same (writeOut marked colon row) phrase

namespace WritesOut

variable {marked : Token → Bool} {colon : Token} {same : Prop}

theorem expression {front back : List Token} {root : Expr} {stages : List Stage}
    (writesRoot : WritesOut marked colon same front (.primary root))
    (writesStages : WritesOut marked colon same back (.stages stages)) :
    WritesOut marked colon same (front ++ back) (.expression ⟨root, stages⟩) := by
  refine ⟨fun opened => ?_, fun opened previous fits marks => ?_⟩
  · rw [openBrackets_append, writesRoot.balanced, writesStages.balanced]
  · obtain ⟨rootMarks, behind, stagesMarks⟩ := marks.append
    obtain ⟨root', rootSpelled, sameRoot⟩ := writesRoot.written opened previous fits rootMarks
    obtain ⟨stages', stagesSpelled, sameStages⟩ := writesStages.written _ behind trivial stagesMarks
    rw [writeOut_append]
    refine ⟨⟨root', stages'⟩, .expression rootSpelled stagesSpelled, fun isSame => ?_⟩
    rw [sameRoot isSame, sameStages isSame]

theorem noStages : WritesOut marked colon same [] (.stages []) :=
  ⟨fun _ => rfl, fun _ _ _ _ => ⟨[], .noStages, fun _ => rfl⟩⟩

theorem stage {bar name : Token} {inside rest : List Token} {arguments : List Expr} {stages : List Stage}
    (barKind : bar.kind = .pipe) (nameKind : name.kind = .identifier)
    (writesArguments : WritesOut marked colon same inside (.argumentList name.value arguments))
    (writesStages : WritesOut marked colon same rest (.stages stages)) :
    WritesOut marked colon same (bar :: name :: (inside ++ rest))
      (.stages (.mk name.value arguments name.place.line name.place.column :: stages)) := by
  refine ⟨fun opened => ?_, fun opened previous fits marks => ?_⟩
  · rw [openBrackets, openBrackets, openBrackets_append, barKind, nameKind, writesArguments.balanced,
      writesStages.balanced]
    rfl
  · obtain ⟨barSkipped, marks⟩ := marks.skip barKind (by nofun)
    obtain ⟨nameSkipped, marks⟩ := marks.skip nameKind (fun _ _ => by decide)
    obtain ⟨argumentsMarks, behind, stagesMarks⟩ := marks.append
    obtain ⟨arguments', argumentsSpelled, sameArguments⟩ := writesArguments.written _ _ trivial argumentsMarks
    obtain ⟨stages', stagesSpelled, sameStages⟩ := writesStages.written _ behind trivial stagesMarks
    rw [barSkipped, nameSkipped, writeOut_append]
    refine ⟨_, .stage barKind nameKind argumentsSpelled stagesSpelled, fun isSame => ?_⟩
    rw [sameArguments isSame, sameStages isSame]

theorem noArgumentList {filter : String} : WritesOut marked colon same [] (.argumentList filter []) :=
  ⟨fun _ => rfl, fun _ _ _ _ => ⟨[], .noArgumentList, fun _ => rfl⟩⟩

theorem emptyArgumentList {filter : String} {opening closing : Token} (openingKind : opening.kind = .leftParen)
    (closingKind : closing.kind = .rightParen) :
    WritesOut marked colon same [opening, closing] (.argumentList filter []) := by
  refine ⟨fun opened => ?_, fun opened previous fits marks => ?_⟩
  · rw [openBrackets, openBrackets, openingKind, closingKind]
    rfl
  · obtain ⟨openingSkipped, marks⟩ := marks.skip openingKind (by nofun)
    obtain ⟨closingSkipped, -⟩ := marks.skip closingKind (by nofun)
    rw [openingSkipped, closingSkipped]
    exact ⟨[], .emptyArgumentList openingKind closingKind, fun _ => rfl⟩

theorem argumentList {filter : String} {opening closing : Token} {inside : List Token} {arguments : List Expr}
    (openingKind : opening.kind = .leftParen) (closingKind : closing.kind = .rightParen)
    (writesInside : WritesOut marked colon same inside (.arguments arguments)) :
    WritesOut marked colon same (opening :: (inside ++ [closing])) (.argumentList filter arguments) := by
  refine ⟨fun opened => ?_, fun opened previous fits marks => ?_⟩
  · apply openBrackets_between writesInside.balanced
    rw [openingKind, closingKind]
    rfl
  · obtain ⟨isRow, insideMarks⟩ := marks.between openingKind (by decide) closingKind (by decide)
    obtain ⟨arguments', insideSpelled, sameArguments⟩ :=
      writesInside.written (.leftParen :: opened) _ rfl insideMarks
    rw [isRow]
    exact ⟨arguments', .argumentList openingKind insideSpelled closingKind, sameArguments⟩

theorem lastArgument {front : List Token} {pipeline : Pipeline}
    (writesFirst : WritesOut marked colon same front (.expression pipeline)) :
    WritesOut marked colon same front (.arguments [pipeline.toExpr]) := by
  refine ⟨writesFirst.balanced, fun opened previous fits marks => ?_⟩
  obtain ⟨pipeline', spelled, samePipeline⟩ := writesFirst.written opened previous (by simp_all [Phrase.Fits]) marks
  refine ⟨_, .lastArgument spelled, fun isSame => ?_⟩
  rw [samePipeline isSame]

theorem argument {comma : Token} {front rest : List Token} {pipeline : Pipeline} {arguments : List Expr}
    (commaKind : comma.kind = .comma) (writesFirst : WritesOut marked colon same front (.expression pipeline))
    (writesRest : WritesOut marked colon same rest (.arguments arguments)) :
    WritesOut marked colon same (front ++ comma :: rest) (.arguments (pipeline.toExpr :: arguments)) := by
  refine ⟨fun opened => ?_, fun opened previous fits marks => ?_⟩
  · exact openBrackets_around_comma commaKind (writesFirst.balanced opened) (writesRest.balanced opened)
  · obtain ⟨isRow, firstMarks, restMarks⟩ := marks.around_comma commaKind (writesFirst.balanced opened)
    obtain ⟨pipeline', firstSpelled, samePipeline⟩ :=
      writesFirst.written opened previous (by simp_all [Phrase.Fits]) firstMarks
    obtain ⟨arguments', restSpelled, sameArguments⟩ := writesRest.written opened _ fits restMarks
    rw [isRow]
    refine ⟨_, .argument firstSpelled commaKind restSpelled, fun isSame => ?_⟩
    rw [samePipeline isSame, sameArguments isSame]

/-- A word that is a whole value by itself. -/
theorem word {word : Token} {kind : TokenKind} {expr : Expr} (isKind : word.kind = kind)
    (noBracket : ∀ opened, kind.bracketsBehind opened = opened) (spelled : Spells [word] (.primary expr)) :
    WritesOut marked colon same [word] (.primary expr) := by
  refine ⟨fun opened => ?_, fun opened previous fits marks => ?_⟩
  · rw [openBrackets, isKind]
    exact noBracket opened
  · obtain ⟨wordSkipped, -⟩ := marks.skip isKind fun _ inBrace => by simp [fits inBrace]
    rw [wordSkipped]
    exact ⟨expr, spelled, fun _ => rfl⟩

theorem path {word : Token} {rest : List Token} {segments : List Segment} (kind : word.kind = .identifier)
    (noKeyword : keyword? word.value = none)
    (writesSegments : WritesOut marked colon same rest (.segments segments)) :
    WritesOut marked colon same (word :: rest) (.primary (.path word.value segments)) := by
  refine ⟨fun opened => ?_, fun opened previous fits marks => ?_⟩
  · rw [openBrackets, kind]
    exact writesSegments.balanced opened
  · obtain ⟨wordSkipped, restMarks⟩ := marks.skip kind fun _ inBrace => by simp [fits inBrace]
    obtain ⟨segments', segmentsSpelled, sameSegments⟩ := writesSegments.written opened _ trivial restMarks
    rw [wordSkipped]
    refine ⟨_, .path kind noKeyword segmentsSpelled, fun isSame => ?_⟩
    rw [sameSegments isSame]

theorem array {opening closing : Token} {inside : List Token} {items : List Expr}
    (openingKind : opening.kind = .leftBracket) (closingKind : closing.kind = .rightBracket)
    (writesItems : WritesOut marked colon same inside (.items items)) :
    WritesOut marked colon same (opening :: (inside ++ [closing])) (.primary (.array items)) := by
  refine ⟨fun opened => ?_, fun opened previous fits marks => ?_⟩
  · apply openBrackets_between writesItems.balanced
    rw [openingKind, closingKind]
    rfl
  · obtain ⟨isRow, insideMarks⟩ := marks.between openingKind (by decide) closingKind (by decide)
    obtain ⟨items', itemsSpelled, sameItems⟩ := writesItems.written (.leftBracket :: opened) _ rfl insideMarks
    rw [isRow]
    refine ⟨_, .array openingKind itemsSpelled closingKind, fun isSame => ?_⟩
    rw [sameItems isSame]

theorem object {opening closing : Token} {inside : List Token} {entries : List (String × Expr)}
    (openingKind : opening.kind = .leftBrace) (closingKind : closing.kind = .rightBrace)
    (writesEntries : WritesOut marked colon same inside (.entries entries)) :
    WritesOut marked colon same (opening :: (inside ++ [closing])) (.primary (.object entries)) := by
  refine ⟨fun opened => ?_, fun opened previous fits marks => ?_⟩
  · apply openBrackets_between writesEntries.balanced
    rw [openingKind, closingKind]
    rfl
  · obtain ⟨isRow, insideMarks⟩ := marks.between openingKind (by decide) closingKind (by decide)
    obtain ⟨entries', entriesSpelled, sameEntries⟩ := writesEntries.written _ _ trivial insideMarks
    rw [isRow]
    refine ⟨_, .object openingKind entriesSpelled closingKind, fun isSame => ?_⟩
    rw [sameEntries isSame]

theorem group {opening closing : Token} {inside : List Token} {pipeline : Pipeline}
    (openingKind : opening.kind = .leftParen) (closingKind : closing.kind = .rightParen)
    (writesInside : WritesOut marked colon same inside (.expression pipeline)) :
    WritesOut marked colon same (opening :: (inside ++ [closing])) (.primary pipeline.toExpr) := by
  refine ⟨fun opened => ?_, fun opened previous fits marks => ?_⟩
  · apply openBrackets_between writesInside.balanced
    rw [openingKind, closingKind]
    rfl
  · obtain ⟨isRow, insideMarks⟩ := marks.between openingKind (by decide) closingKind (by decide)
    obtain ⟨pipeline', insideSpelled, samePipeline⟩ :=
      writesInside.written (.leftParen :: opened) _ (by nofun) insideMarks
    rw [isRow]
    refine ⟨_, .group openingKind insideSpelled closingKind, fun isSame => ?_⟩
    rw [samePipeline isSame]

theorem noSegments : WritesOut marked colon same [] (.segments []) :=
  ⟨fun _ => rfl, fun _ _ _ _ => ⟨[], .noSegments, fun _ => rfl⟩⟩

theorem property {dot name : Token} {rest : List Token} {segments : List Segment} (dotKind : dot.kind = .dot)
    (nameKind : name.kind = .identifier)
    (writesRest : WritesOut marked colon same rest (.segments segments)) :
    WritesOut marked colon same (dot :: name :: rest) (.segments (.property name.value :: segments)) := by
  refine ⟨fun opened => ?_, fun opened previous fits marks => ?_⟩
  · rw [openBrackets, openBrackets, dotKind, nameKind]
    exact writesRest.balanced opened
  · obtain ⟨dotSkipped, marks⟩ := marks.skip dotKind (by nofun)
    obtain ⟨nameSkipped, restMarks⟩ := marks.skip nameKind (fun _ _ => by decide)
    obtain ⟨segments', restSpelled, sameSegments⟩ := writesRest.written _ _ trivial restMarks
    rw [dotSkipped, nameSkipped]
    refine ⟨_, .property dotKind nameKind restSpelled, fun isSame => ?_⟩
    rw [sameSegments isSame]

theorem numberProperties {dot number : Token} {rest : List Token} {properties segments : List Segment}
    (dotKind : dot.kind = .dot) (numberKind : number.kind = .number)
    (named : numberProperties? number.value = some properties)
    (writesRest : WritesOut marked colon same rest (.segments segments)) :
    WritesOut marked colon same (dot :: number :: rest) (.segments (properties ++ segments)) := by
  refine ⟨fun opened => ?_, fun opened previous fits marks => ?_⟩
  · rw [openBrackets, openBrackets, dotKind, numberKind]
    exact writesRest.balanced opened
  · obtain ⟨dotSkipped, marks⟩ := marks.skip dotKind (by nofun)
    obtain ⟨numberSkipped, restMarks⟩ := marks.skip numberKind (by nofun)
    obtain ⟨segments', restSpelled, sameSegments⟩ := writesRest.written _ _ trivial restMarks
    rw [dotSkipped, numberSkipped]
    refine ⟨_, .numberProperties dotKind numberKind named restSpelled, fun isSame => ?_⟩
    rw [sameSegments isSame]

theorem index {opening closing : Token} {inside rest : List Token} {key : Pipeline} {segments : List Segment}
    (openingKind : opening.kind = .leftBracket) (closingKind : closing.kind = .rightBracket)
    (writesKey : WritesOut marked colon same inside (.expression key))
    (writesRest : WritesOut marked colon same rest (.segments segments)) :
    WritesOut marked colon same (opening :: (inside ++ closing :: rest))
      (.segments (.index key.toExpr :: segments)) := by
  refine ⟨fun opened => ?_, fun opened previous fits marks => ?_⟩
  · rw [openBrackets, openBrackets_append, writesKey.balanced, openBrackets, openingKind, closingKind]
    exact writesRest.balanced opened
  · obtain ⟨openingSkipped, marks⟩ := marks.skip openingKind (by nofun)
    obtain ⟨keyMarks, behind, marks⟩ := marks.append
    rw [writesKey.balanced] at marks
    obtain ⟨closingSkipped, restMarks⟩ := marks.skip closingKind (by nofun)
    obtain ⟨key', keySpelled, sameKey⟩ := writesKey.written (.leftBracket :: opened) _ (by nofun) keyMarks
    obtain ⟨segments', restSpelled, sameSegments⟩ := writesRest.written opened _ trivial restMarks
    rw [openingSkipped, writeOut_append, closingSkipped]
    refine ⟨_, .index openingKind keySpelled closingKind restSpelled, fun isSame => ?_⟩
    rw [sameKey isSame, sameSegments isSame]

theorem noItems : WritesOut marked colon same [] (.items []) :=
  ⟨fun _ => rfl, fun _ _ _ _ => ⟨[], .noItems, fun _ => rfl⟩⟩

theorem lastItem {front : List Token} {pipeline : Pipeline}
    (writesFirst : WritesOut marked colon same front (.expression pipeline)) :
    WritesOut marked colon same front (.items [pipeline.toExpr]) := by
  refine ⟨writesFirst.balanced, fun opened previous fits marks => ?_⟩
  obtain ⟨pipeline', spelled, samePipeline⟩ := writesFirst.written opened previous (by simp_all [Phrase.Fits]) marks
  refine ⟨_, .lastItem spelled, fun isSame => ?_⟩
  rw [samePipeline isSame]

theorem item {comma : Token} {front rest : List Token} {pipeline : Pipeline} {items : List Expr}
    (commaKind : comma.kind = .comma) (writesFirst : WritesOut marked colon same front (.expression pipeline))
    (writesRest : WritesOut marked colon same rest (.items items)) :
    WritesOut marked colon same (front ++ comma :: rest) (.items (pipeline.toExpr :: items)) := by
  refine ⟨fun opened => ?_, fun opened previous fits marks => ?_⟩
  · exact openBrackets_around_comma commaKind (writesFirst.balanced opened) (writesRest.balanced opened)
  · obtain ⟨isRow, firstMarks, restMarks⟩ := marks.around_comma commaKind (writesFirst.balanced opened)
    obtain ⟨pipeline', firstSpelled, samePipeline⟩ :=
      writesFirst.written opened previous (by simp_all [Phrase.Fits]) firstMarks
    obtain ⟨items', restSpelled, sameItems⟩ := writesRest.written opened _ fits restMarks
    rw [isRow]
    refine ⟨_, .item firstSpelled commaKind restSpelled, fun isSame => ?_⟩
    rw [samePipeline isSame, sameItems isSame]

theorem noEntries : WritesOut marked colon same [] (.entries []) :=
  ⟨fun _ => rfl, fun _ _ _ _ => ⟨[], .noEntries, fun _ => rfl⟩⟩

theorem lastEntry {front : List Token} {entry : String × Expr}
    (writesFirst : WritesOut marked colon same front (.entry entry)) :
    WritesOut marked colon same front (.entries [entry]) := by
  refine ⟨writesFirst.balanced, fun opened previous fits marks => ?_⟩
  obtain ⟨entry', spelled, sameEntry⟩ := writesFirst.written opened previous trivial marks
  refine ⟨_, .lastEntry spelled, fun isSame => ?_⟩
  rw [sameEntry isSame]

theorem entries {comma : Token} {front rest : List Token} {entry : String × Expr} {entries : List (String × Expr)}
    (commaKind : comma.kind = .comma) (writesFirst : WritesOut marked colon same front (.entry entry))
    (writesRest : WritesOut marked colon same rest (.entries entries)) :
    WritesOut marked colon same (front ++ comma :: rest) (.entries (entry :: entries)) := by
  refine ⟨fun opened => ?_, fun opened previous fits marks => ?_⟩
  · exact openBrackets_around_comma commaKind (writesFirst.balanced opened) (writesRest.balanced opened)
  · obtain ⟨isRow, firstMarks, restMarks⟩ := marks.around_comma commaKind (writesFirst.balanced opened)
    obtain ⟨entry', firstSpelled, sameEntry⟩ := writesFirst.written opened previous trivial firstMarks
    obtain ⟨entries', restSpelled, sameEntries⟩ := writesRest.written opened _ trivial restMarks
    rw [isRow]
    refine ⟨_, .entries firstSpelled commaKind restSpelled, fun isSame => ?_⟩
    rw [sameEntry isSame, sameEntries isSame]

/-- A key with a colon behind it is not marked. -/
theorem keyValue {key mark : Token} {rest : List Token} {pipeline : Pipeline}
    (keyKind : key.kind = .identifier ∨ key.kind = .string) (markKind : mark.kind = .colon)
    (writesRest : WritesOut marked colon same rest (.expression pipeline)) :
    WritesOut marked colon same (key :: mark :: rest) (.entry (key.value, pipeline.toExpr)) := by
  have noBracket : ∀ opened, key.kind.bracketsBehind opened = opened := by
    rcases keyKind with isKind | isKind
    · simp [isKind, TokenKind.bracketsBehind]
    · simp [isKind, TokenKind.bracketsBehind]
  refine ⟨fun opened => ?_, fun opened previous fits marks => ?_⟩
  · rw [openBrackets, openBrackets, noBracket, markKind]
    exact writesRest.balanced opened
  · have unmarked : marked key = false := by
      apply eq_false_of_ne_true
      intro isMarked
      exact (marks.1 isMarked).2.2.2 mark rfl markKind
    have behindKey := marks.2
    rw [noBracket] at behindKey
    obtain ⟨markSkipped, restMarks⟩ := behindKey.skip markKind (by nofun)
    obtain ⟨pipeline', restSpelled, samePipeline⟩ := writesRest.written opened (some .colon) (fun _ => rfl) restMarks
    rw [writeOut_unmarked unmarked, markSkipped]
    refine ⟨_, .keyValue keyKind markKind restSpelled, fun isSame => ?_⟩
    rw [samePipeline isSame]

/-- A name alone is written out as an entry with that key, whose value is the path of the name or, for a keyword, a
literal. -/
theorem shorthand (isColon : colon.kind = .colon)
    (noKeywords : same → ∀ token, marked token = true → keyword? token.value = none) {key : Token}
    (keyKind : key.kind = .identifier) :
    WritesOut marked colon same [key] (.entry (key.value, .path key.value [])) := by
  refine ⟨fun opened => ?_, fun opened previous fits marks => ?_⟩
  · rw [openBrackets, keyKind]
    rfl
  cases isMarked : marked key with
  | false =>
      rw [writeOut_unmarked isMarked]
      exact ⟨_, .shorthand keyKind, fun _ => rfl⟩
  | true =>
      rw [writeOut_marked isMarked]
      cases keyword : keyword? key.value with
      | none =>
          have path : Spells [key] (.primary (.path key.value [])) := .path keyKind keyword .noSegments
          exact ⟨_, .keyValue (.inl keyKind) isColon path.whole, fun _ => rfl⟩
      | some literal =>
          have value : Spells [key] (.primary (.literal literal)) := .keyword keyKind keyword
          refine ⟨_, .keyValue (.inl keyKind) isColon value.whole, fun isSame => ?_⟩
          rw [noKeywords isSame key isMarked] at keyword
          cases keyword

end WritesOut

/-- Whatever the grammar spells can be written out. -/
theorem Spells.writesOut {marked : Token → Bool} {colon : Token} {same : Prop} (isColon : colon.kind = .colon)
    (noKeywords : same → ∀ token, marked token = true → keyword? token.value = none) {row : List Token}
    {phrase : Phrase} (spelled : Spells row phrase) : WritesOut marked colon same row phrase := by
  induction spelled with
  | expression _ _ writesRoot writesStages => exact .expression writesRoot writesStages
  | noStages => exact .noStages
  | stage bar name _ _ writesArguments writesStages => exact .stage bar name writesArguments writesStages
  | noArgumentList => exact .noArgumentList
  | emptyArgumentList opening closing => exact .emptyArgumentList opening closing
  | argumentList opening _ closing writesInside => exact .argumentList opening closing writesInside
  | lastArgument _ writesFirst => exact .lastArgument writesFirst
  | argument _ comma _ writesFirst writesRest => exact .argument comma writesFirst writesRest
  | string kind => exact .word kind (fun _ => rfl) (.string kind)
  | number kind isRead => exact .word kind (fun _ => rfl) (.number kind isRead)
  | keyword kind isKeyword => exact .word kind (fun _ => rfl) (.keyword kind isKeyword)
  | path kind noKeyword _ writesSegments => exact .path kind noKeyword writesSegments
  | array opening _ closing writesItems => exact .array opening closing writesItems
  | object opening _ closing writesEntries => exact .object opening closing writesEntries
  | group opening _ closing writesInside => exact .group opening closing writesInside
  | noSegments => exact .noSegments
  | property dot name _ writesRest => exact .property dot name writesRest
  | numberProperties dot number named _ writesRest => exact .numberProperties dot number named writesRest
  | index opening _ closing _ writesKey writesRest => exact .index opening closing writesKey writesRest
  | noItems => exact .noItems
  | lastItem _ writesFirst => exact .lastItem writesFirst
  | item _ comma _ writesFirst writesRest => exact .item comma writesFirst writesRest
  | noEntries => exact .noEntries
  | lastEntry _ writesFirst => exact .lastEntry writesFirst
  | entries _ comma _ writesFirst writesRest => exact .entries comma writesFirst writesRest
  | keyValue key mark _ writesRest => exact .keyValue key mark writesRest
  | shorthand key => exact .shorthand isColon noKeywords key

/-! ## One name -/

theorem marksShorthands_of_unmarked {marked : Token → Bool} {row : List Token}
    (unmarked : ∀ token ∈ row, marked token = false) (opened : List TokenKind) (previous : Option TokenKind) :
    MarksShorthands marked opened previous row := by
  induction row generalizing opened previous with
  | nil => trivial
  | cons token row inductionHypothesis =>
      obtain ⟨tokenUnmarked, rowUnmarked⟩ := List.forall_mem_cons.1 unmarked
      refine ⟨fun isMarked => ?_, inductionHypothesis rowUnmarked _ _⟩
      rw [tokenUnmarked] at isMarked
      cases isMarked

theorem writeOut_of_unmarked {marked : Token → Bool} {colon : Token} {row : List Token}
    (unmarked : ∀ token ∈ row, marked token = false) : writeOut marked colon row = row := by
  induction row with
  | nil => rfl
  | cons token row inductionHypothesis =>
      obtain ⟨tokenUnmarked, rowUnmarked⟩ := List.forall_mem_cons.1 unmarked
      rw [writeOut_unmarked tokenUnmarked, inductionHypothesis rowUnmarked]

/-- A name alone can be marked by itself. -/
theorem marksShorthands_of_isShorthand {marked : Token → Bool} {before after : List Token} {key : Token}
    (beforeUnmarked : ∀ token ∈ before, marked token = false)
    (afterUnmarked : ∀ token ∈ after, marked token = false) {opened : List TokenKind}
    {previous : Option TokenKind} (isName : key.kind = .identifier)
    (inObject : (openBrackets opened before).head? = some .leftBrace)
    (starts : ∃ kind ∈ (before.getLast?.map Token.kind).or previous, kind = .leftBrace ∨ kind = .comma)
    (noColon : ∀ next ∈ after.head?, next.kind ≠ .colon) :
    MarksShorthands marked opened previous (before ++ key :: after) := by
  induction before generalizing opened previous with
  | nil =>
      obtain ⟨kind, isPrevious, isMark⟩ := starts
      refine ⟨fun _ => ⟨isName, inObject, ?_, noColon⟩, marksShorthands_of_unmarked afterUnmarked _ _⟩
      cases isPrevious
      simpa using isMark
  | cons token before inductionHypothesis =>
      obtain ⟨tokenUnmarked, beforeUnmarked⟩ := List.forall_mem_cons.1 beforeUnmarked
      refine ⟨fun isMarked => ?_, inductionHypothesis beforeUnmarked inObject ?_⟩
      · rw [tokenUnmarked] at isMarked
        cases isMarked
      · cases isLast : before.getLast? with
        | none => simpa [List.getLast?_cons, isLast] using starts
        | some last => simpa [List.getLast?_cons, isLast] using starts

/-- A name alone in an object can be written out. -/
theorem Spells.writeOut_one {before after : List Token} {key colon : Token} {pipeline : Pipeline}
    (spelled : Spells (before ++ key :: after) (.expression pipeline)) (isShorthand : IsShorthand before key after)
    (isColon : colon.kind = .colon) (notBefore : key ∉ before) (notAfter : key ∉ after) :
    ∃ other, Spells (before ++ key :: colon :: key :: after) (.expression other) ∧
      (keyword? key.value = none → other = pipeline) := by
  let marked : Token → Bool := fun token => token == key
  have beforeUnmarked : ∀ token ∈ before, marked token = false := by
    intro token member
    exact beq_false_of_ne fun isKey => notBefore (isKey ▸ member)
  have afterUnmarked : ∀ token ∈ after, marked token = false := by
    intro token member
    exact beq_false_of_ne fun isKey => notAfter (isKey ▸ member)
  have starts : ∃ kind ∈ (before.getLast?.map Token.kind).or none, kind = .leftBrace ∨ kind = .comma := by
    obtain ⟨mark, isLast, isMark⟩ := isShorthand.starts
    rw [isLast]
    exact ⟨mark.kind, rfl, isMark⟩
  have noColon : ∀ next ∈ after.head?, next.kind ≠ .colon := by
    intro next isNext
    obtain ⟨mark, isFirst, isMark⟩ := isShorthand.ends
    rw [isFirst] at isNext
    cases isNext
    rcases isMark with isMark | isMark
    · rw [isMark]
      decide
    · rw [isMark]
      decide
  have marks := marksShorthands_of_isShorthand beforeUnmarked afterUnmarked isShorthand.name isShorthand.inObject
    starts noColon
  have noKeywords : keyword? key.value = none → ∀ token, marked token = true → keyword? token.value = none := by
    intro noKeyword token isKey
    rwa [eq_of_beq isKey]
  obtain ⟨other, otherSpelled, same⟩ := (spelled.writesOut isColon noKeywords).written [] none (by nofun) marks
  have keyMarked : marked key = true := beq_self_eq_true key
  rw [writeOut_append, writeOut_marked keyMarked, writeOut_of_unmarked beforeUnmarked,
    writeOut_of_unmarked afterUnmarked] at otherSpelled
  exact ⟨other, otherSpelled, same⟩

end Folio.Template
