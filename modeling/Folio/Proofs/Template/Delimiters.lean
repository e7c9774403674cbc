import Folio.Proofs.Template.Completeness
import Folio.Proofs.Template.Relocation

/-!
Contract: two scanners agree on where an expression ends.

Owns: the braces that a row of tokens leaves open and their balance in the grammar; strings that a text
closes; that the cutting of a template into pieces stops an expression exactly where its words say that
it ends; and that a template which is one expression between delimiters reads as that expression.

Does not own: what stands between two expressions.
-/

namespace Folio.Template

open Folio.Text

/-! ## Braces of a row of tokens -/

/-- The braces open behind a token; none can be closed where none is open. -/
def TokenKind.bracesBehind : TokenKind → Nat → Option Nat
  | .leftBrace, depth => some (depth + 1)
  | .rightBrace, 0 => none
  | .rightBrace, depth + 1 => some depth
  | _, depth => some depth

/-- The braces open behind a row of tokens. -/
def bracesBehind (depth : Nat) : List Token → Option Nat
  | [] => some depth
  | token :: tokens => (token.kind.bracesBehind depth).bind (bracesBehind · tokens)

theorem bracesBehind_append (depth : Nat) (front back : List Token) :
    bracesBehind depth (front ++ back) = (bracesBehind depth front).bind (bracesBehind · back) := by
  induction front generalizing depth with
  | nil => rfl
  | cons token front inductionHypothesis =>
      rw [List.cons_append, bracesBehind, bracesBehind]
      cases token.kind.bracesBehind depth with
      | none => rfl
      | some deeper => exact inductionHypothesis deeper

/-- A row in the grammar closes the braces that it opens, and no others. -/
theorem Spells.balanced {row : List Token} {phrase : Phrase} (spelled : Spells row phrase)
    (depth : Nat) : bracesBehind depth row = some depth := by
  induction spelled generalizing depth with
  | noStages | noArgumentList | noSegments | noItems | noEntries => rfl
  | lastArgument _ inductionHypothesis => exact inductionHypothesis depth
  | lastItem _ inductionHypothesis => exact inductionHypothesis depth
  | lastEntry _ inductionHypothesis => exact inductionHypothesis depth
  | string isKind | number isKind | keyword isKind | shorthand isKind =>
      simp [bracesBehind, isKind, TokenKind.bracesBehind]
  | emptyArgumentList opens closes =>
      simp [bracesBehind, opens, closes, TokenKind.bracesBehind]
  | expression _ _ rootBraces stagesBraces =>
      simp [bracesBehind_append, rootBraces, stagesBraces]
  | stage isBar isName _ _ insideBraces restBraces =>
      simp [bracesBehind, bracesBehind_append, isBar, isName, TokenKind.bracesBehind,
        insideBraces, restBraces]
  | argumentList opens _ closes insideBraces =>
      simp [bracesBehind, bracesBehind_append, opens, closes, TokenKind.bracesBehind,
        insideBraces]
  | argument _ isComma _ frontBraces restBraces | item _ isComma _ frontBraces restBraces
  | entries _ isComma _ frontBraces restBraces =>
      simp [bracesBehind, bracesBehind_append, isComma, TokenKind.bracesBehind,
        frontBraces, restBraces]
  | path isKind _ _ restBraces =>
      simp [bracesBehind, isKind, TokenKind.bracesBehind, restBraces]
  | array opens _ closes insideBraces | object opens _ closes insideBraces
  | group opens _ closes insideBraces =>
      simp [bracesBehind, bracesBehind_append, opens, closes, TokenKind.bracesBehind,
        insideBraces]
  | property isDot isName _ restBraces =>
      simp [bracesBehind, isDot, isName, TokenKind.bracesBehind, restBraces]
  | numberProperties isDot isNumber _ _ restBraces =>
      simp [bracesBehind, isDot, isNumber, TokenKind.bracesBehind, restBraces]
  | index opens _ closes _ insideBraces restBraces =>
      simp [bracesBehind, bracesBehind_append, opens, closes, TokenKind.bracesBehind,
        insideBraces, restBraces]
  | keyValue isKey isColon _ valueBraces =>
      rcases isKey with isKey | isKey
      all_goals
        simp [bracesBehind, isKey, isColon, TokenKind.bracesBehind, valueBraces]

/-! ## Characters that neither scanner counts -/

/-- Neither a quote nor a brace. -/
def isPlain (char : Char) : Bool :=
  !isQuote char && char != '{' && char != '}'

theorem isPlain_of_class {char : Char} {isMember : Char → Bool} (member : isMember char = true)
    (single : isMember '\'' = false) (double : isMember '"' = false) (opening : isMember '{' = false)
    (closing : isMember '}' = false) : isPlain char = true := by
  have differs : ∀ other, isMember other = false → char ≠ other := by
    rintro other isOther rfl
    rw [member] at isOther
    cases isOther
  simp [isPlain, isQuote, differs _ single, differs _ double, differs _ opening,
    differs _ closing]

theorem isPlain_of_isBlank {char : Char} (blank : isBlank char = true) : isPlain char = true :=
  isPlain_of_class blank (by decide) (by decide) (by decide) (by decide)

theorem isPlain_of_isNumeralChar {char : Char} (digit : isNumeralChar char = true) :
    isPlain char = true :=
  isPlain_of_class digit (by decide) (by decide) (by decide) (by decide)

theorem isPlain_of_continuesName {char : Char} (continues : continuesName char = true) :
    isPlain char = true :=
  isPlain_of_class continues (by decide) (by decide) (by decide) (by decide)

theorem continuesName_of_startsName {char : Char} (starts : startsName char = true) :
    continuesName char = true := by
  simp [continuesName, starts]

/-! ## The end of an expression -/

section Expression

variable {depth : Nat} {chars content rest : List Char}

theorem spanExpression_plain {char : Char} (plain : isPlain char = true)
    (found : spanExpression none depth chars = .ok (content, rest)) :
    spanExpression none depth (char :: chars) = .ok (char :: content, rest) := by
  simp only [isPlain, Bool.and_eq_true, Bool.not_eq_true', bne_iff_ne, ne_eq] at plain
  obtain ⟨⟨noQuote, noOpening⟩, noClosing⟩ := plain
  rw [spanExpression]
  · rw [quoteOpened, depthAfter, if_neg (by simp [noQuote]), if_neg noOpening, if_neg noClosing]
    exact keepChar_eq_ok.2 ⟨content, rfl, found⟩
  · intro _ _ isClosing _
    exact noClosing isClosing

theorem spanExpression_plains {row : List Char} (plain : ∀ char ∈ row, isPlain char = true)
    (found : spanExpression none depth chars = .ok (content, rest)) :
    spanExpression none depth (row ++ chars) = .ok (row ++ content, rest) := by
  induction row with
  | nil => exact found
  | cons char row inductionHypothesis =>
      refine spanExpression_plain (plain char List.mem_cons_self) ?_
      exact inductionHypothesis fun other member => plain other (List.mem_cons_of_mem char member)

/-- A string is over for the one scanner where it is over for the other. -/
theorem spanExpression_string {quote : Char} {text inside after : List Char}
    (quotes : isQuote quote = true) (isString : spanString quote text = some (inside, after))
    (found : spanExpression none depth after = .ok (content, rest)) :
    spanExpression (some quote) depth text = .ok (inside ++ quote :: content, rest) := by
  fun_induction spanString quote text generalizing inside with
  | case1 => cases isString
  | case2 escaped text inductionHypothesis =>
      obtain ⟨⟨tail, behind⟩, tailFound, same⟩ := Option.map_eq_some_iff.1 isString
      cases same
      rw [spanExpression]
      refine keepChar_eq_ok.2 ⟨_, rfl, keepChar_eq_ok.2 ⟨_, rfl, ?_⟩⟩
      exact inductionHypothesis tailFound
  | case3 text notEscape =>
      cases isString
      rw [spanExpression, if_pos rfl]
      · exact keepChar_eq_ok.2 ⟨content, rfl, found⟩
      · intro shielded _ isBackslash _
        exact isQuote_ne_backslash quotes isBackslash
  | case4 char text notEscape notQuote inductionHypothesis =>
      obtain ⟨⟨tail, behind⟩, tailFound, same⟩ := Option.map_eq_some_iff.1 isString
      cases same
      rw [spanExpression, if_neg notQuote]
      · exact keepChar_eq_ok.2 ⟨_, rfl, inductionHypothesis tailFound⟩
      · intro shielded others isBackslash isText
        exact notEscape shielded others isBackslash isText

/-- A mark moves the depth of the one scanner as its token moves the braces of the other. -/
theorem spanExpression_mark {char : Char} {kind : TokenKind} {deeper : Nat}
    (marked : punctuation? char = some kind) (passes : kind.bracesBehind depth = some deeper)
    (found : spanExpression none deeper chars = .ok (content, rest)) :
    spanExpression none depth (char :: chars) = .ok (char :: content, rest) := by
  obtain ⟨noQuote, -, -, opening, closing⟩ := punctuation?_brace marked
  by_cases opens : kind = .leftBrace
  · obtain rfl := opening.1 opens
    subst opens
    cases passes
    rw [spanExpression]
    · exact keepChar_eq_ok.2 ⟨content, rfl, found⟩
    · intro _ _ isClosing _
      exact absurd isClosing (by decide)
  by_cases closes : kind = .rightBrace
  · obtain rfl := closing.1 closes
    subst closes
    cases depth with
    | zero => cases passes
    | succ depth =>
        cases passes
        rw [spanExpression]
        · exact keepChar_eq_ok.2 ⟨content, rfl, found⟩
        · intro _ isZero
          cases isZero
  · have same : kind.bracesBehind depth = some depth := by
      cases kind <;> first | rfl | contradiction
    cases same.symm.trans passes
    refine spanExpression_plain ?_ found
    have noOpening : char ≠ '{' := fun isOpening => opens (opening.2 isOpening)
    have noClosing : char ≠ '}' := fun isClosing => closes (closing.2 isClosing)
    simp [isPlain, noQuote, noOpening, noClosing]

/-- A word keeps the scanners in step. -/
theorem Spelling.spanExpression_append {kind : TokenKind} {spelling value : List Char} {deeper : Nat}
    (spelled : Spelling kind spelling value) (passes : kind.bracesBehind depth = some deeper)
    (found : spanExpression none deeper chars = .ok (content, rest)) :
    spanExpression none depth (spelling ++ chars) = .ok (spelling ++ content, rest) := by
  cases spelled with
  | @string quote inside quotes anywhere =>
      cases passes
      have opened := spanExpression_string quotes (anywhere chars) found
      simp only [List.cons_append, List.append_assoc, List.nil_append]
      rw [spanExpression]
      · rw [quoteOpened, if_pos quotes, depthAfter, if_neg, if_neg]
        · exact keepChar_eq_ok.2 ⟨_, rfl, opened⟩
        · rintro rfl
          exact absurd quotes (by decide)
        · rintro rfl
          exact absurd quotes (by decide)
      · rintro _ - rfl _
        exact absurd quotes (by decide)
  | number digits =>
      cases passes
      exact spanExpression_plains (fun char member => isPlain_of_isNumeralChar (digits char member)) found
  | @name char more starts continues =>
      cases passes
      refine spanExpression_plains ?_ found
      intro other member
      rcases List.mem_cons.1 member with rfl | member
      · exact isPlain_of_continuesName (continuesName_of_startsName starts)
      · exact isPlain_of_continuesName (continues other member)
  | mark marked => exact spanExpression_mark marked passes found

/-- An expression whose tokens balance their braces ends right before the closing delimiter, whatever
stands in its strings. -/
theorem spanExpression_of_lexes {previous : Option TokenKind} {place : Position}
    {tokens : List Token} (lexed : Lexes previous place chars tokens)
    (balanced : bracesBehind depth tokens = some 0) (rest : List Char) :
    spanExpression none depth (chars ++ '}' :: '}' :: rest) = .ok (chars, rest) := by
  induction lexed generalizing depth with
  | finish =>
      cases balanced
      rw [List.nil_append, spanExpression]
  | blank isBlank _ inductionHypothesis =>
      exact spanExpression_plain (isPlain_of_isBlank isBlank) (inductionHypothesis balanced)
  | @word previous place kind char more behind value tokens spelled _ inductionHypothesis =>
      obtain ⟨deeper, passes, balanced⟩ := Option.bind_eq_some_iff.1 balanced
      have found := spelled.spanExpression_append passes (inductionHypothesis balanced)
      simpa only [List.cons_append, List.append_assoc] using found

end Expression

/-! ## Strings that a text closes -/

/-- Whether every string that a text opens, or that is open in front of it, is closed by it too. -/
def closesStrings : Option Char → List Char → Bool
  | some _, [] => false
  | none, [] => true
  | some quote, '\\' :: _ :: rest => closesStrings (some quote) rest
  | some quote, char :: rest => closesStrings (if char = quote then none else some quote) rest
  | none, char :: rest => closesStrings (quoteOpened char) rest

/-- The content of an expression closes its strings. -/
theorem closesStrings_of_spanExpression {quote : Option Char} {depth : Nat}
    {chars content rest : List Char}
    (found : spanExpression quote depth chars = .ok (content, rest)) :
    closesStrings quote content = true := by
  fun_induction spanExpression quote depth chars generalizing content with
  | case1 => cases found
  | case2 => cases found
  | case3 quote depth shielded tail inductionHypothesis =>
      obtain ⟨_, rfl, shieldedFound⟩ := keepChar_eq_ok.1 found
      obtain ⟨_, rfl, tailFound⟩ := keepChar_eq_ok.1 shieldedFound
      rw [closesStrings]
      exact inductionHypothesis tailFound
  | case4 quote depth char tail notEscape inductionHypothesis =>
      obtain ⟨inside, rfl, tailFound⟩ := keepChar_eq_ok.1 found
      rw [closesStrings]
      · exact inductionHypothesis tailFound
      · rintro shielded others isBackslash rfl
        have isTail := append_of_spanExpression tailFound
        exact notEscape shielded (others ++ '}' :: '}' :: rest) isBackslash isTail.symm
  | case5 tail =>
      cases found
      rfl
  | case6 depth char tail _ inductionHypothesis =>
      obtain ⟨_, rfl, tailFound⟩ := keepChar_eq_ok.1 found
      exact inductionHypothesis tailFound

theorem closesStrings_plain {char : Char} (plain : isPlain char = true) (rest : List Char) :
    closesStrings none (char :: rest) = closesStrings none rest := by
  simp only [isPlain, Bool.and_eq_true, Bool.not_eq_true'] at plain
  rw [closesStrings, quoteOpened, if_neg (by simp [plain.1.1])]

theorem closesStrings_plains {row : List Char} (plain : ∀ char ∈ row, isPlain char = true)
    (rest : List Char) : closesStrings none (row ++ rest) = closesStrings none rest := by
  induction row with
  | nil => rfl
  | cons char row inductionHypothesis =>
      rw [List.cons_append, closesStrings_plain (plain char List.mem_cons_self)]
      exact inductionHypothesis fun other member => plain other (List.mem_cons_of_mem char member)

/-- What is open behind a quote is the string up to the next one, if there is one. -/
theorem closesStrings_string {quote : Char} (quotes : isQuote quote = true) (text : List Char) :
    closesStrings (some quote) text =
      match spanString quote text with
      | some (_, after) => closesStrings none after
      | none => false := by
  fun_induction spanString quote text with
  | case1 => rfl
  | case2 escaped text inductionHypothesis =>
      rw [closesStrings, inductionHypothesis]
      cases spanString quote text with
      | none => rfl
      | some split => rfl
  | case3 text notEscape =>
      rw [closesStrings, if_pos rfl]
      intro shielded _ isBackslash _
      exact isQuote_ne_backslash quotes isBackslash
  | case4 char text notEscape notQuote inductionHypothesis =>
      rw [closesStrings, if_neg notQuote, inductionHypothesis]
      · cases spanString quote text with
        | none => rfl
        | some split => rfl
      · intro shielded others isBackslash isText
        exact notEscape shielded others isBackslash isText

theorem closesStrings_quote {quote : Char} (quotes : isQuote quote = true) (text : List Char) :
    closesStrings none (quote :: text) = closesStrings (some quote) text := by
  rw [closesStrings, quoteOpened, if_pos quotes]

/-- A word leaves no string open. -/
theorem Spelling.closesStrings_append {kind : TokenKind} {spelling value : List Char}
    (spelled : Spelling kind spelling value) (rest : List Char) :
    closesStrings none (spelling ++ rest) = closesStrings none rest := by
  cases spelled with
  | @string quote inside quotes anywhere =>
      simp only [List.cons_append, List.append_assoc, List.nil_append]
      rw [closesStrings_quote quotes, closesStrings_string quotes, anywhere]
  | number digits =>
      exact closesStrings_plains (fun char member => isPlain_of_isNumeralChar (digits char member)) rest
  | @name char more starts continues =>
      refine closesStrings_plains ?_ rest
      intro other member
      rcases List.mem_cons.1 member with rfl | member
      · exact isPlain_of_continuesName (continuesName_of_startsName starts)
      · exact isPlain_of_continuesName (continues other member)
  | mark marked =>
      have noQuote := (punctuation?_brace marked).1
      rw [List.singleton_append, closesStrings, quoteOpened, if_neg (by simp [noQuote])]

/-- The words of a text that closes its strings are never found to have an unterminated one. -/
theorem words_ne_unterminatedString {previous : Option TokenKind} {place : Position}
    {chars : List Char} (closes : closesStrings none chars = true) {error : SyntaxError}
    (failed : words previous place chars = .error error) : error.cause ≠ .unterminatedString := by
  fun_induction words previous place chars generalizing error with
  | case1 => cases failed
  | case2 previous place char rest isBlank inductionHypothesis =>
      rcases front_cases previous char rest with
        ⟨-, blank⟩ | ⟨_, isFault, -⟩ | ⟨_, _, _, _, -, isWord, -⟩
      · rw [closesStrings_plain (isPlain_of_isBlank blank)] at closes
        exact inductionHypothesis closes failed
      · cases isBlank.symm.trans isFault
      · cases isBlank.symm.trans isWord
  | case3 previous place char rest cause isFault =>
      rcases front_cases previous char rest with
        ⟨isBlank, -⟩ | ⟨cause', isFault', unterminated⟩ | ⟨_, _, _, _, -, isWord, -⟩
      · cases isFault.symm.trans isBlank
      · cases isFault.symm.trans isFault'
        cases failed
        intro isString
        obtain ⟨quotes, noEnd⟩ := unterminated isString
        rw [closesStrings_quote quotes, closesStrings_string quotes, noEnd] at closes
        cases closes
      · cases isFault.symm.trans isWord
  | case4 previous place char rest kind more value isWord error' laterFailed inductionHypothesis =>
      rcases front_cases previous char rest with
        ⟨isBlank, -⟩ | ⟨_, isFault, -⟩ | ⟨_, _, _, after, isRest, isWord', spelled⟩
      · cases isWord.symm.trans isBlank
      · cases isWord.symm.trans isFault
      · cases isWord.symm.trans isWord'
        cases failed
        subst isRest
        rw [List.drop_left] at laterFailed inductionHypothesis
        rw [← List.cons_append, spelled.closesStrings_append] at closes
        exact inductionHypothesis closes laterFailed
  | case5 => cases failed

/-! ## Templates and their expressions -/

/-- Behind an opening delimiter stands an expression, where its end is found. -/
theorem pieces_of_expression {place : Position} {rest content after : List Char}
    (found : spanExpression none 0 rest = .ok (content, after)) :
    pieces place ('{' :: '{' :: rest) =
      (pieces (((place.past ['{', '{']).past content).past ['}', '}']) after).map
        (⟨.expression, String.ofList content, place.past ['{', '{']⟩ :: ·) := by
  rw [pieces]
  split
  · rename_i cause failed
    cases found.symm.trans failed
  · rename_i content' after' found'
    cases found.symm.trans found'
    dsimp only
    cases pieces (((place.past ['{', '{']).past content).past ['}', '}']) after with
    | error error => rfl
    | ok tokens => rfl

/-- Every expression that a template is cut into closes its strings. -/
theorem closesStrings_of_pieces {place : Position} {chars : List Char} {tokens : List Token}
    (cut : pieces place chars = .ok tokens) :
    ∀ token ∈ tokens, token.kind = .expression → closesStrings none token.value.toList = true := by
  fun_induction pieces place chars generalizing tokens with
  | case1 place =>
      cases cut
      intro token member isExpression
      obtain rfl := List.mem_singleton.1 member
      cases isExpression
  | case2 => cases cut
  | case3 => cases cut
  | case4 place rest content after found inner later laterCut =>
      rename_i inductionHypothesis
      cases cut
      intro token member isExpression
      rcases List.mem_cons.1 member with rfl | member
      · rw [String.toList_ofList]
        exact closesStrings_of_spanExpression found
      · exact inductionHypothesis laterCut token member isExpression
  | case5 => cases cut
  | case6 place char rest notOpening text later laterCut =>
      rename_i inductionHypothesis
      cases cut
      intro token member isExpression
      rcases List.mem_cons.1 member with rfl | member
      · cases isExpression
      · exact inductionHypothesis laterCut token member isExpression

/-- A text that reads as an expression ends, inside a template, where its words end. -/
theorem spanExpression_of_parseExpressionText {text : String} {pipeline : Pipeline}
    (read : parseExpressionText text = .ok pipeline) (rest : List Char) :
    spanExpression none 0 (text.toList ++ '}' :: '}' :: rest) = .ok (text.toList, rest) := by
  unfold parseExpressionText Pipeline.readAt at read
  split at read
  · rename_i tokens lexed
    have derived := lexes_of_words lexed
    obtain ⟨row, finish, rfl, ends, unfinished⟩ := derived.ends
    have spelled := (Pipeline.ofTokens_eq_ok_iff unfinished ends).1 read
    refine spanExpression_of_lexes derived ?_ rest
    rw [bracesBehind_append, spelled.balanced]
    simp [bracesBehind, ends, TokenKind.bracesBehind]
  · cases read

/-- Two scanners agree on where an expression ends. A text that reads as an expression reads, between
delimiters, as the template of this one expression; and no expression that a template is cut into is
found to leave a string open, wherever it is taken to stand. -/
theorem expression_ends_agree :
    (∀ text pipeline, parseExpressionText text = .ok pipeline →
      ∃ pipeline', parseTemplate ("\x7b\x7b" ++ text ++ "\x7d\x7d") =
          .ok [.expression pipeline' (stripText text) 1 3] ∧
        pipeline'.unplaced = pipeline.unplaced) ∧
      ∀ template tokens, templateTokens template = .ok tokens →
        ∀ token ∈ tokens, token.kind = .expression →
          ∀ place error, expressionTokens place token.value = .error error →
            error.cause ≠ .unterminatedString := by
  constructor
  · intro text pipeline read
    have found := spanExpression_of_parseExpressionText read []
    obtain ⟨pipeline', readInside, same⟩ :=
      Pipeline.readAt_unplaced read (Position.start.past ['{', '{'])
    refine ⟨pipeline', ?_, same⟩
    have isText : ("\x7b\x7b" ++ text ++ "\x7d\x7d").toList =
        '{' :: '{' :: (text.toList ++ ['}', '}']) := by
      simp
    rw [parseTemplate, templateTokens, isText, pieces_of_expression found]
    rw [pieces, Except.map, String.ofList_toList]
    dsimp only
    rw [nodesOfTokens]
    dsimp only
    rw [Node.ofExpression]
    dsimp only
    rw [readInside]
    rfl
  · intro template tokens cut token member isExpression place error failed
    exact words_ne_unterminatedString (closesStrings_of_pieces cut token member isExpression) failed

/-- The law at an object that touches the delimiter and holds it in a string, and at an expression that
a lone sign makes malformed for another reason. -/
theorem expression_ends_agree_at_object :
    (∃ pipeline pipeline', parseExpressionText " \x7ba: '\x7d\x7d'\x7d" = .ok pipeline ∧
      parseTemplate ("\x7b\x7b" ++ " \x7ba: '\x7d\x7d'\x7d" ++ "\x7d\x7d") =
          .ok [.expression pipeline' "\x7ba: '\x7d\x7d'\x7d" 1 3] ∧
        pipeline'.unplaced = pipeline.unplaced) ∧
      ∃ token error, templateTokens "\x7b\x7b'a' ! 'b'\x7d\x7d" =
          .ok [token, ⟨.finish, "", ⟨13, 1, 14⟩⟩] ∧
        expressionTokens token.place token.value = .error error ∧
        error.cause ≠ .unterminatedString := by
  constructor
  · have isRead : (parseExpressionText " \x7ba: '\x7d\x7d'\x7d").isOk = true := by decide +kernel
    have stripped : stripText " \x7ba: '\x7d\x7d'\x7d" = "\x7ba: '\x7d\x7d'\x7d" := by decide
    cases read : parseExpressionText " \x7ba: '\x7d\x7d'\x7d" with
    | error fault =>
        rw [read] at isRead
        cases isRead
    | ok pipeline =>
        obtain ⟨pipeline', readInside, same⟩ := expression_ends_agree.1 _ _ read
        rw [stripped] at readInside
        exact ⟨pipeline, pipeline', rfl, readInside, same⟩
  · have cut : templateTokens "\x7b\x7b'a' ! 'b'\x7d\x7d" =
        .ok [⟨.expression, "'a' ! 'b'", ⟨2, 1, 3⟩⟩, ⟨.finish, "", ⟨13, 1, 14⟩⟩] := by
      decide +kernel
    have failed : expressionTokens ⟨2, 1, 3⟩ "'a' ! 'b'" =
        .error ⟨.unexpectedChar '!', ⟨6, 1, 7⟩, none⟩ := by decide +kernel
    exact ⟨_, _, cut, failed, expression_ends_agree.2 _ _ cut _ List.mem_cons_self rfl _ _ failed⟩

end Folio.Template
