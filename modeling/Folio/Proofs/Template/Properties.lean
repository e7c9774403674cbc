import Folio.Proofs.Template.Acceptance
import Folio.Proofs.Text.Split

/-!
Contract: the property names of an expression.

Owns: the properties that a tree names anywhere in it; that they are what the words behind the points of the
text give, in their order; the names that a word can give; and which expressions name a property without a
name.

Does not own: what a value has under a property.
-/

namespace Folio.Template

open Folio.Text Folio.Number

/-! ## The properties of a tree -/

mutual

/-- The names of all properties that the paths of a tree ask for, those inside of indices and arguments
included. -/
def Expr.properties : Expr → List String
  | .literal _ => []
  | .path _ segments => segmentProperties segments
  | .array items => exprProperties items
  | .object entries => entryProperties entries
  | .pipeline root stages => root.properties ++ stageProperties stages

def exprProperties : List Expr → List String
  | [] => []
  | expr :: exprs => expr.properties ++ exprProperties exprs

def entryProperties : List (String × Expr) → List String
  | [] => []
  | (_, value) :: entries => value.properties ++ entryProperties entries

def segmentProperties : List Segment → List String
  | [] => []
  | .property name :: segments => name :: segmentProperties segments
  | .index key :: segments => key.properties ++ segmentProperties segments

def stageProperties : List Stage → List String
  | [] => []
  | .mk _ arguments _ _ :: stages => exprProperties arguments ++ stageProperties stages

end

def Pipeline.properties (pipeline : Pipeline) : List String :=
  pipeline.root.properties ++ stageProperties pipeline.stages

def Phrase.properties : Phrase → List String
  | .expression pipeline => pipeline.properties
  | .stages row => stageProperties row
  | .argumentList _ row => exprProperties row
  | .arguments row => exprProperties row
  | .primary expr => expr.properties
  | .segments row => segmentProperties row
  | .items row => exprProperties row
  | .entries row => entryProperties row
  | .entry (_, value) => value.properties

theorem Pipeline.properties_toExpr (pipeline : Pipeline) : pipeline.toExpr.properties = pipeline.properties := by
  obtain ⟨root, stages⟩ := pipeline
  cases stages with
  | nil => simp [Pipeline.toExpr, Pipeline.properties, stageProperties]
  | cons stage stages => simp [Pipeline.toExpr, Pipeline.properties, Expr.properties]

theorem segmentProperties_append (names : List String) (segments : List Segment) :
    segmentProperties (names.map .property ++ segments) = names ++ segmentProperties segments := by
  induction names with
  | nil => rfl
  | cons name names inductionHypothesis => simp [segmentProperties, inductionHypothesis]

/-! ## The words behind points -/

/-- The tokens that have a point right before them. -/
def behindPoints : List Token → List Token
  | dot :: name :: rest =>
      if dot.kind = .dot then name :: behindPoints (name :: rest) else behindPoints (name :: rest)
  | _ => []

/-- The property names that a word gives: a number gives one for each part between its points. -/
def Token.propertyNames (token : Token) : List String :=
  if token.kind = .number then splitText '.' token.value else [token.value]

/-- Names and numbers without a minus. -/
def Token.IsPropertyName (token : Token) : Prop :=
  token.kind = .identifier ∨ token.kind = .number ∧ token.value.toList.head? ≠ some '-'

theorem behindPoints_cons {token : Token} (noPoint : token.kind ≠ .dot) (rest : List Token) :
    behindPoints (token :: rest) = behindPoints rest := by
  cases rest with
  | nil => simp [behindPoints]
  | cons next rest => simp [behindPoints, noPoint]

theorem behindPoints_dot {dot : Token} (isPoint : dot.kind = .dot) (name : Token) (rest : List Token) :
    behindPoints (dot :: name :: rest) = name :: behindPoints (name :: rest) := by
  simp [behindPoints, isPoint]

theorem behindPoints_subset : (row : List Token) → behindPoints row ⊆ row
  | [] => List.Subset.refl []
  | [token] => by simp [behindPoints]
  | dot :: name :: rest => by
      have inRest := List.subset_cons_of_subset dot (behindPoints_subset (name :: rest))
      rw [behindPoints]
      split
      · rw [List.cons_subset]
        exact ⟨by simp, inRest⟩
      · exact inRest

/-- A row tells the names of properties: the words behind its points are what gives them, and it does not end
with a point, so that no word behind the row is one of them. -/
structure Tells (row : List Token) (names : List String) : Prop where
  apart : ∀ back, behindPoints (row ++ back) = behindPoints row ++ behindPoints back
  words : ∀ token ∈ behindPoints row, token.IsPropertyName
  names : names = (behindPoints row).flatMap Token.propertyNames

namespace Tells

variable {row back : List Token} {names others : List String} {token : Token} {kind : TokenKind}

theorem nothing : Tells [] [] where
  apart _ := rfl
  words := by simp [behindPoints]
  names := rfl

theorem append (tells : Tells row names) (backTells : Tells back others) : Tells (row ++ back) (names ++ others) where
  apart behind := by
    rw [List.append_assoc, tells.apart, backTells.apart, tells.apart, List.append_assoc]
  words := by
    rw [tells.apart, List.forall_mem_append]
    exact ⟨tells.words, backTells.words⟩
  names := by rw [tells.apart, List.flatMap_append, ← tells.names, ← backTells.names]

/-- A word that is no point adds nothing in front of a row. -/
theorem behind (tells : Tells row names) (isKind : token.kind = kind) (noPoint : kind ≠ .dot) :
    Tells (token :: row) names where
  apart back := by
    subst isKind
    rw [List.cons_append, behindPoints_cons noPoint, behindPoints_cons noPoint, tells.apart]
  words := by
    subst isKind
    rw [behindPoints_cons noPoint]
    exact tells.words
  names := by
    subst isKind
    rw [behindPoints_cons noPoint]
    exact tells.names

theorem word (isKind : token.kind = kind) (noPoint : kind ≠ .dot) : Tells [token] [] :=
  nothing.behind isKind noPoint

/-- A row between two words that are no points. -/
theorem between {opening closing : Token} {openingKind closingKind : TokenKind} (tells : Tells row names)
    (opens : opening.kind = openingKind) (opensNoPoint : openingKind ≠ .dot)
    (closes : closing.kind = closingKind) (closesNoPoint : closingKind ≠ .dot) :
    Tells (opening :: (row ++ [closing])) names := by
  have closed := tells.append (word closes closesNoPoint)
  rw [List.append_nil] at closed
  exact closed.behind opens opensNoPoint

/-- A point and the word behind it. -/
theorem property {dot name : Token} (isPoint : dot.kind = .dot) (isName : name.IsPropertyName) :
    Tells [dot, name] name.propertyNames := by
  have noPoint : name.kind ≠ .dot := by
    rcases isName with isKind | ⟨isKind, -⟩
    · rw [isKind]
      decide
    · rw [isKind]
      decide
  have behind : ∀ back, behindPoints (dot :: name :: back) = name :: behindPoints back := by
    intro back
    rw [behindPoints_dot isPoint, behindPoints_cons noPoint]
  have alone : behindPoints [dot, name] = [name] := behind []
  refine ⟨?_, ?_, ?_⟩
  · intro back
    rw [alone]
    exact behind back
  · simpa [alone] using isName
  · simp [alone]

end Tells

theorem isPropertyName_of_numberProperties? {token : Token} {properties : List Segment}
    (isNumber : token.kind = .number) (named : numberProperties? token.value = some properties) :
    token.IsPropertyName ∧ properties = token.propertyNames.map .property := by
  unfold numberProperties? at named
  split at named
  · cases named
  · rename_i noMinus
    cases named
    refine ⟨.inr ⟨isNumber, by simpa using noMinus⟩, ?_⟩
    rw [Token.propertyNames, if_pos isNumber]

/-- A row that the grammar spells tells the properties of its phrase. -/
theorem Spells.tells {row : List Token} {phrase : Phrase} (spelled : Spells row phrase) :
    Tells row phrase.properties := by
  induction spelled with
  | expression _ _ rootTells stagesTell => exact rootTells.append stagesTell
  | noStages => exact .nothing
  | stage barKind nameKind _ _ argumentsTell stagesTell =>
      exact ((argumentsTell.append stagesTell).behind nameKind (by decide)).behind barKind (by decide)
  | noArgumentList => exact .nothing
  | emptyArgumentList openingKind closingKind =>
      exact (Tells.word closingKind (by decide)).behind openingKind (by decide)
  | argumentList openingKind _ closingKind insideTells =>
      exact insideTells.between openingKind (by decide) closingKind (by decide)
  | lastArgument _ firstTells =>
      simpa [Phrase.properties, exprProperties, Pipeline.properties_toExpr] using firstTells
  | argument _ commaKind _ firstTells restTells =>
      have tells := firstTells.append (restTells.behind commaKind (by decide))
      simpa [Phrase.properties, exprProperties, Pipeline.properties_toExpr] using tells
  | string kind => exact .word kind (by decide)
  | number kind _ => exact .word kind (by decide)
  | keyword kind _ => exact .word kind (by decide)
  | path kind _ _ segmentsTell => exact segmentsTell.behind kind (by decide)
  | array openingKind _ closingKind insideTells =>
      exact insideTells.between openingKind (by decide) closingKind (by decide)
  | object openingKind _ closingKind insideTells =>
      exact insideTells.between openingKind (by decide) closingKind (by decide)
  | group openingKind _ closingKind insideTells =>
      have tells := insideTells.between openingKind (by decide) closingKind (by decide)
      simpa [Phrase.properties, Pipeline.properties_toExpr] using tells
  | noSegments => exact .nothing
  | property dotKind nameKind _ restTells =>
      have tells := (Tells.property dotKind (.inl nameKind)).append restTells
      simpa [Phrase.properties, segmentProperties, Token.propertyNames, nameKind] using tells
  | numberProperties dotKind numberKind named _ restTells =>
      obtain ⟨isName, rfl⟩ := isPropertyName_of_numberProperties? numberKind named
      have tells := (Tells.property dotKind isName).append restTells
      simpa [Phrase.properties, segmentProperties_append] using tells
  | index openingKind _ closingKind _ keyTells restTells =>
      have tells := (keyTells.append (restTells.behind closingKind (by decide))).behind openingKind (by decide)
      simpa [Phrase.properties, segmentProperties, Pipeline.properties_toExpr] using tells
  | noItems => exact .nothing
  | lastItem _ firstTells =>
      simpa [Phrase.properties, exprProperties, Pipeline.properties_toExpr] using firstTells
  | item _ commaKind _ firstTells restTells =>
      have tells := firstTells.append (restTells.behind commaKind (by decide))
      simpa [Phrase.properties, exprProperties, Pipeline.properties_toExpr] using tells
  | noEntries => exact .nothing
  | lastEntry _ firstTells => simpa [Phrase.properties, entryProperties] using firstTells
  | entries _ commaKind _ firstTells restTells =>
      exact firstTells.append (restTells.behind commaKind (by decide))
  | keyValue keyKind colonKind _ restTells =>
      have tells := restTells.behind colonKind (by decide)
      simp only [Phrase.properties, Pipeline.properties_toExpr]
      rcases keyKind with keyKind | keyKind
      · exact tells.behind keyKind (by decide)
      · exact tells.behind keyKind (by decide)
  | shorthand kind => exact .word kind (by decide)

/-! ## The words of a text -/

/-- A name of an expression text is a name. -/
theorem isName_of_lexes {previous : Option TokenKind} {place : Position} {chars : List Char} {tokens : List Token}
    (lexed : Lexes previous place chars tokens) :
    ∀ token ∈ tokens, token.kind = .identifier → isName token.value = true := by
  induction lexed with
  | finish => simp
  | blank _ _ inductionHypothesis => exact inductionHypothesis
  | word spelled _ inductionHypothesis =>
      rw [List.forall_mem_cons]
      refine ⟨?_, inductionHypothesis⟩
      rintro rfl
      cases spelled with
      | name starts continues =>
          rw [isName, String.toList_ofList]
          simpa [starts] using continues
      | mark marked => exact absurd rfl (punctuation?_ne_word marked).2

theorem point_notMem_of_digits {row : List Char} (digits : ∀ char ∈ row, isDigit char = true) : '.' ∉ row :=
  fun member => (ne_of_isDigit (digits '.' member)).2.2.2 rfl

/-- The parts of a numeral without a minus: itself, or the digits before its point and those behind it. There are
none before a point that stands in front. -/
theorem splitOn_of_isNumeral {chars : List Char} (isNumeral : IsNumeral chars) (noMinus : chars.head? ≠ some '-') :
    (∀ part ∈ splitOn '.' chars, IsDigitRow part ∨ part = []) ∧
      ([] ∈ splitOn '.' chars ↔ chars.head? = some '.') := by
  cases isNumeral with
  | whole negative isRow =>
      rename_i row
      cases negative with
      | true => exact absurd rfl noMinus
      | false =>
          have noPoint := point_notMem_of_digits isRow.digits
          have alone : splitOn '.' (withMinus false row) = [row] := splitOn_of_notMem noPoint
          rw [alone, List.forall_mem_singleton, List.mem_singleton]
          refine ⟨.inl isRow, iff_of_false isRow.nonempty.symm ?_⟩
          intro isPoint
          exact noPoint (List.mem_of_head? isPoint)
  | fraction negative digits isRow =>
      rename_i whole row
      cases negative with
      | true => exact absurd rfl noMinus
      | false =>
          have noPoint := point_notMem_of_digits digits
          have parts : splitOn '.' (withMinus false (whole ++ '.' :: row)) = [whole, row] := by
            rw [withMinus, if_neg Bool.false_ne_true, splitOn_append_separator noPoint,
              splitOn_of_notMem (point_notMem_of_digits isRow.digits)]
          rw [parts]
          cases whole with
          | nil => simp [withMinus, isRow]
          | cons char whole =>
              have isWhole : IsDigitRow (char :: whole) := ⟨digits, List.cons_ne_nil char whole⟩
              have notPoint : char ≠ '.' := (ne_of_isDigit (digits char List.mem_cons_self)).2.2.2
              simp [withMinus, isRow, isWhole, isRow.nonempty.symm, notPoint]

/-- What the words of a text give behind points: names and rows of digits, and nothing at all before a point in
front of a number. -/
theorem propertyNames_of_word {token : Token} (isWord : token.IsPropertyName)
    (named : token.kind = .identifier → isName token.value = true)
    (numbered : token.kind = .number → IsNumeral token.value.toList) :
    (∀ name ∈ token.propertyNames, isName name = true ∨ IsDigitRow name.toList ∨ name = "") ∧
      ("" ∈ token.propertyNames ↔ token.kind = .number ∧ token.value.toList.head? = some '.') := by
  rcases isWord with isIdentifier | ⟨isNumber, noMinus⟩
  · have noNumber : token.kind ≠ .number := by
      rw [isIdentifier]
      decide
    have isName := named isIdentifier
    have nonempty : "" ≠ token.value := by
      intro empty
      rw [← empty] at isName
      exact absurd isName (by decide)
    rw [Token.propertyNames, if_neg noNumber, List.forall_mem_singleton, List.mem_singleton]
    exact ⟨.inl isName, iff_of_false nonempty fun isNumber => noNumber isNumber.1⟩
  · obtain ⟨parts, empty⟩ := splitOn_of_isNumeral (numbered isNumber) noMinus
    rw [Token.propertyNames, if_pos isNumber, splitText]
    constructor
    · rw [List.forall_mem_map]
      intro part member
      rcases parts part member with isRow | rfl
      · exact .inr (.inl (by rwa [String.toList_ofList]))
      · exact .inr (.inr rfl)
    · rw [← empty, List.mem_map]
      simp [isNumber]

/-! ## Accepted expressions -/

/-- The property names of an accepted expression are what the words behind its points give, in their order: each
of these words is a name or a number without a minus, never a point, and what they give is a name, or a row of
digits, or nothing at all. The latter is given by a number that starts with a point behind a point, and by nothing
else. -/
theorem properties_of_words {text : String} {pipeline : Pipeline} (read : parseExpressionText text = .ok pipeline) :
    ∃ row finish, expressionTokens .start text = .ok (row ++ [finish]) ∧ finish.kind = .finish ∧
      pipeline.properties = (behindPoints row).flatMap Token.propertyNames ∧
        (∀ token ∈ behindPoints row, token.IsPropertyName) ∧
          (∀ name ∈ pipeline.properties, isName name = true ∨ IsDigitRow name.toList ∨ name = "") ∧
            ("" ∈ pipeline.properties ↔
              ∃ token ∈ behindPoints row, token.kind = .number ∧ token.value.toList.head? = some '.') := by
  obtain ⟨row, finish, found, ends, spelled⟩ := row_of_parseExpressionText read
  have tells : Tells row pipeline.properties := spelled.tells
  have given : ∀ token ∈ behindPoints row,
      (∀ name ∈ token.propertyNames, isName name = true ∨ IsDigitRow name.toList ∨ name = "") ∧
        ("" ∈ token.propertyNames ↔ token.kind = .number ∧ token.value.toList.head? = some '.') := by
    intro token member
    have inText : token ∈ row ++ [finish] := List.mem_append_left [finish] (behindPoints_subset row member)
    exact propertyNames_of_word (tells.words token member) (isName_of_lexes (lexes_of_words found) token inText)
      (isNumeral_of_words found token inText)
  refine ⟨row, finish, found, ends, tells.names, tells.words, ?_, ?_⟩
  · intro name isNamed
    rw [tells.names, List.mem_flatMap] at isNamed
    obtain ⟨token, member, isNamed⟩ := isNamed
    exact (given token member).1 name isNamed
  · rw [tells.names, List.mem_flatMap]
    constructor
    · rintro ⟨token, member, isNamed⟩
      exact ⟨token, member, (given token member).2.1 isNamed⟩
    · rintro ⟨token, member, isPoint⟩
      exact ⟨token, member, (given token member).2.2 isPoint⟩

/-- A path with an index and two digits around a point, and another path in an argument. -/
theorem properties_of_words_at_index :
    ∃ pipeline, parseExpressionText "pages[site.top].rows.0.1 | first(a.b)" = .ok pipeline ∧
      pipeline.properties = ["top", "rows", "0", "1", "b"] ∧ "" ∉ pipeline.properties := by
  let row : List Token :=
    [⟨.identifier, "pages", ⟨0, 1, 1⟩⟩, ⟨.leftBracket, "[", ⟨5, 1, 6⟩⟩, ⟨.identifier, "site", ⟨6, 1, 7⟩⟩,
      ⟨.dot, ".", ⟨10, 1, 11⟩⟩, ⟨.identifier, "top", ⟨11, 1, 12⟩⟩, ⟨.rightBracket, "]", ⟨14, 1, 15⟩⟩,
      ⟨.dot, ".", ⟨15, 1, 16⟩⟩, ⟨.identifier, "rows", ⟨16, 1, 17⟩⟩, ⟨.dot, ".", ⟨20, 1, 21⟩⟩,
      ⟨.number, "0.1", ⟨21, 1, 22⟩⟩, ⟨.pipe, "|", ⟨25, 1, 26⟩⟩, ⟨.identifier, "first", ⟨27, 1, 28⟩⟩,
      ⟨.leftParen, "(", ⟨32, 1, 33⟩⟩, ⟨.identifier, "a", ⟨33, 1, 34⟩⟩, ⟨.dot, ".", ⟨34, 1, 35⟩⟩,
      ⟨.identifier, "b", ⟨35, 1, 36⟩⟩, ⟨.rightParen, ")", ⟨36, 1, 37⟩⟩]
  have found : expressionTokens .start "pages[site.top].rows.0.1 | first(a.b)" =
      .ok (row ++ [⟨.finish, "", ⟨37, 1, 38⟩⟩]) := by
    decide +kernel
  have read : ∃ pipeline, parseExpressionText "pages[site.top].rows.0.1 | first(a.b)" = .ok pipeline := by
    rw [parseExpressionText_of_tokens found]
    exact ⟨_, rfl⟩
  obtain ⟨pipeline, read⟩ := read
  obtain ⟨row', finish, found', -, properties, -, -, empty⟩ := properties_of_words read
  have sameRow : row' = row := by
    have sameTokens := Except.ok.inj (found'.symm.trans found)
    exact (List.append_inj' sameTokens rfl).1
  subst sameRow
  refine ⟨pipeline, read, properties.trans (by decide +kernel), ?_⟩
  rw [empty]
  decide +kernel

/-- A number that starts with a point, behind a point, names a property without a name. -/
theorem properties_of_doubled_point :
    let pipeline : Pipeline := ⟨.path "a" [.property "", .property "5"], []⟩
    parseExpressionText "a..5" = .ok pipeline ∧ pipeline.properties = ["", "5"] := by
  have found : expressionTokens .start "a..5" =
      .ok [⟨.identifier, "a", ⟨0, 1, 1⟩⟩, ⟨.dot, ".", ⟨1, 1, 2⟩⟩, ⟨.number, ".5", ⟨2, 1, 3⟩⟩,
        ⟨.finish, "", ⟨4, 1, 5⟩⟩] := by
    decide +kernel
  refine ⟨?_, rfl⟩
  rw [parseExpressionText_of_tokens found]
  rfl

end Folio.Template
