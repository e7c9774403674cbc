import Folio.Proofs.Outcome
import Folio.Proofs.Template.Grammar

/-!
Contract: what the descent reads is spelled by the tokens that it has moved past.

Owns: that law for every part of the grammar and every depth.
-/

namespace Folio.Template

open Folio.Text Folio.Number

/-- The front of a row spells a phrase, and a cursor stands behind it. -/
def Taken (finish : Token) (tokens : List Token) (phrase : Phrase) (after : Cursor) : Prop :=
  ∃ front back, tokens = front ++ back ∧ after = Cursor.over finish back ∧ Spells front phrase

/-- With so much depth, whatever is read is spelled. -/
def ReadsSpelled (finish : Token) (depth : Nat) : Prop :=
  ∀ phrase tokens after, Unfinished tokens → Reads depth phrase (Cursor.over finish tokens) after →
    Taken finish tokens phrase after

namespace ReadsSpelled

variable {finish : Token} {depth : Nat} {tokens : List Token} {after : Cursor}

/-- A phrase that is read in front of a closing token. -/
theorem closed (deeper : ReadsSpelled finish depth) (ends : finish.kind = .finish) (phrase : Phrase)
    {kind : TokenKind} {cause : SyntaxCause} {afterPhrase : Cursor} (differs : kind ≠ .finish)
    (unfinished : Unfinished tokens)
    (read : Reads depth phrase (Cursor.over finish tokens) afterPhrase)
    (found : afterPhrase.expect kind cause = .ok after) :
    ∃ inside closing back, tokens = inside ++ closing :: back ∧ after = Cursor.over finish back ∧
      closing.kind = kind ∧ Spells inside phrase := by
  obtain ⟨inside, rest, rfl, rfl, spelled⟩ := deeper phrase _ _ unfinished read
  obtain ⟨closing, back, rfl, closingKind, rfl⟩ := Cursor.expect_over ends differs found
  exact ⟨inside, closing, back, rfl, rfl, closingKind, spelled⟩

theorem expression_succ (deeper : ReadsSpelled finish depth) {pipeline : Pipeline}
    (unfinished : Unfinished tokens)
    (read : parseExpression (depth + 1) (Cursor.over finish tokens) = .ok (pipeline, after)) :
    Taken finish tokens (.expression pipeline) after := by
  rw [parseExpression] at read
  obtain ⟨⟨root, afterRoot⟩, rootRead, read⟩ := bind_eq_ok.1 read
  obtain ⟨⟨stages, afterStages⟩, stagesRead, read⟩ := bind_eq_ok.1 read
  cases read
  obtain ⟨front, rest, rfl, rfl, rootSpelled⟩ := deeper (.primary root) _ _ unfinished rootRead
  obtain ⟨middle, back, rfl, rfl, stagesSpelled⟩ :=
    deeper (.stages stages) _ _ unfinished.behind stagesRead
  exact ⟨front ++ middle, back, (List.append_assoc ..).symm, rfl,
    .expression rootSpelled stagesSpelled⟩

theorem stages_succ (deeper : ReadsSpelled finish depth) (ends : finish.kind = .finish)
    {stages : List Stage} (unfinished : Unfinished tokens)
    (read : parseStages (depth + 1) (Cursor.over finish tokens) = .ok (stages, after)) :
    Taken finish tokens (.stages stages) after := by
  rw [parseStages] at read
  by_cases piped : (Cursor.over finish tokens).kind = .pipe
  · rw [if_pos piped] at read
    obtain ⟨bar, behindBar, rfl, barKind, advanced⟩ := Cursor.over_at ends piped (by decide)
    rw [advanced] at read
    dsimp only at read
    obtain ⟨afterName, nameFound, read⟩ := bind_eq_ok.1 read
    obtain ⟨⟨arguments, afterArguments⟩, argumentsRead, read⟩ := bind_eq_ok.1 read
    obtain ⟨⟨later, afterLater⟩, laterRead, read⟩ := bind_eq_ok.1 read
    cases read
    obtain ⟨name, behindName, rfl, nameKind, rfl⟩ :=
      Cursor.expect_over ends (by decide) nameFound
    obtain ⟨inside, rest, rfl, rfl, argumentsSpelled⟩ :=
      deeper (.argumentList name.value arguments) _ _ unfinished.tail.tail argumentsRead
    obtain ⟨middle, back, rfl, rfl, laterSpelled⟩ :=
      deeper (.stages later) _ _ unfinished.tail.tail.behind laterRead
    exact ⟨bar :: name :: (inside ++ middle), back, by simp, rfl,
      .stage barKind nameKind argumentsSpelled laterSpelled⟩
  · rw [if_neg piped] at read
    cases read
    exact ⟨[], tokens, rfl, rfl, .noStages⟩

theorem argumentList_succ (deeper : ReadsSpelled finish depth) (ends : finish.kind = .finish)
    {filter : String} {arguments : List Expr} (unfinished : Unfinished tokens)
    (read : parseArgumentList (depth + 1) filter (Cursor.over finish tokens) =
      .ok (arguments, after)) :
    Taken finish tokens (.argumentList filter arguments) after := by
  rw [parseArgumentList] at read
  by_cases opened : (Cursor.over finish tokens).kind = .leftParen
  · rw [if_pos opened] at read
    obtain ⟨opening, inside, rfl, openingKind, advanced⟩ := Cursor.over_at ends opened (by decide)
    rw [advanced] at read
    dsimp only at read
    by_cases closed : (Cursor.over finish inside).kind = .rightParen
    · rw [if_pos closed] at read
      obtain ⟨_, noArguments, read⟩ := bind_eq_ok.1 read
      cases noArguments
      obtain ⟨afterClosing, closingFound, read⟩ := bind_eq_ok.1 read
      cases read
      obtain ⟨closing, back, rfl, closingKind, rfl⟩ :=
        Cursor.expect_over ends (by decide) closingFound
      exact ⟨[opening, closing], back, rfl, rfl, .emptyArgumentList openingKind closingKind⟩
    · rw [if_neg closed] at read
      obtain ⟨⟨found, afterFound⟩, argumentsRead, read⟩ := bind_eq_ok.1 read
      obtain ⟨afterClosing, closingFound, read⟩ := bind_eq_ok.1 read
      cases read
      obtain ⟨middle, closing, back, rfl, rfl, closingKind, argumentsSpelled⟩ :=
        deeper.closed ends (.arguments found) (by decide) unfinished.tail argumentsRead closingFound
      exact ⟨opening :: (middle ++ [closing]), back, by simp, rfl,
        .argumentList openingKind argumentsSpelled closingKind⟩
  · rw [if_neg opened] at read
    cases read
    exact ⟨[], tokens, rfl, rfl, .noArgumentList⟩

theorem arguments_succ (deeper : ReadsSpelled finish depth) (ends : finish.kind = .finish)
    {arguments : List Expr} (unfinished : Unfinished tokens)
    (read : parseArguments (depth + 1) (Cursor.over finish tokens) = .ok (arguments, after)) :
    Taken finish tokens (.arguments arguments) after := by
  rw [parseArguments] at read
  obtain ⟨⟨first, afterFirst⟩, firstRead, read⟩ := bind_eq_ok.1 read
  obtain ⟨front, rest, rfl, rfl, firstSpelled⟩ := deeper (.expression first) _ _ unfinished firstRead
  dsimp only at read
  by_cases another : (Cursor.over finish rest).kind = .comma
  · rw [if_pos another] at read
    obtain ⟨comma, behindComma, rfl, commaKind, advanced⟩ := Cursor.over_at ends another (by decide)
    rw [advanced] at read
    obtain ⟨⟨later, afterLater⟩, laterRead, read⟩ := bind_eq_ok.1 read
    cases read
    obtain ⟨middle, back, rfl, rfl, laterSpelled⟩ :=
      deeper (.arguments later) _ _ unfinished.behind.tail laterRead
    exact ⟨front ++ comma :: middle, back, by simp, rfl,
      .argument firstSpelled commaKind laterSpelled⟩
  · rw [if_neg another] at read
    cases read
    exact ⟨front, rest, rfl, rfl, .lastArgument firstSpelled⟩

theorem primary_succ (deeper : ReadsSpelled finish depth) (ends : finish.kind = .finish)
    {expr : Expr} (unfinished : Unfinished tokens)
    (read : parsePrimary (depth + 1) (Cursor.over finish tokens) = .ok (expr, after)) :
    Taken finish tokens (.primary expr) after := by
  cases tokens with
  | nil =>
      rw [parsePrimary, show (Cursor.over finish []).kind = .finish from ends] at read
      cases read
  | cons word rest =>
      have advanced : (Cursor.over finish (word :: rest)).advance = Cursor.over finish rest :=
        Cursor.advance_over_cons unfinished.head
      rw [parsePrimary, Cursor.over_cons_kind, Cursor.over_cons_current, advanced] at read
      cases kind : word.kind with
      | string =>
          rw [kind] at read
          cases read
          exact ⟨[word], rest, rfl, rfl, .string kind⟩
      | number =>
          rw [kind] at read
          obtain ⟨literal, numberRead, read⟩ := bind_eq_ok.1 read
          cases read
          exact ⟨[word], rest, rfl, rfl, .number kind numberRead⟩
      | identifier =>
          rw [kind] at read
          cases keyword : keyword? word.value with
          | some literal =>
              rw [keyword] at read
              cases read
              exact ⟨[word], rest, rfl, rfl, .keyword kind keyword⟩
          | none =>
              rw [keyword] at read
              obtain ⟨⟨segments, afterSegments⟩, segmentsRead, read⟩ := bind_eq_ok.1 read
              cases read
              obtain ⟨inside, back, rfl, rfl, segmentsSpelled⟩ :=
                deeper (.segments segments) _ _ unfinished.tail segmentsRead
              exact ⟨word :: inside, back, rfl, rfl, .path kind keyword segmentsSpelled⟩
      | leftBracket =>
          rw [kind] at read
          obtain ⟨⟨items, afterItems⟩, itemsRead, read⟩ := bind_eq_ok.1 read
          obtain ⟨afterClosing, closingFound, read⟩ := bind_eq_ok.1 read
          cases read
          obtain ⟨inside, closing, back, rfl, rfl, closingKind, itemsSpelled⟩ :=
            deeper.closed ends (.items items) (by decide) unfinished.tail itemsRead closingFound
          exact ⟨word :: (inside ++ [closing]), back, by simp, rfl,
            .array kind itemsSpelled closingKind⟩
      | leftBrace =>
          rw [kind] at read
          obtain ⟨⟨entries, afterEntries⟩, entriesRead, read⟩ := bind_eq_ok.1 read
          obtain ⟨afterClosing, closingFound, read⟩ := bind_eq_ok.1 read
          cases read
          obtain ⟨inside, closing, back, rfl, rfl, closingKind, entriesSpelled⟩ :=
            deeper.closed ends (.entries entries) (by decide) unfinished.tail entriesRead closingFound
          exact ⟨word :: (inside ++ [closing]), back, by simp, rfl,
            .object kind entriesSpelled closingKind⟩
      | leftParen =>
          rw [kind] at read
          obtain ⟨⟨inner, afterInner⟩, innerRead, read⟩ := bind_eq_ok.1 read
          obtain ⟨afterClosing, closingFound, read⟩ := bind_eq_ok.1 read
          cases read
          obtain ⟨inside, closing, back, rfl, rfl, closingKind, innerSpelled⟩ :=
            deeper.closed ends (.expression inner) (by decide) unfinished.tail innerRead closingFound
          exact ⟨word :: (inside ++ [closing]), back, by simp, rfl,
            .group kind innerSpelled closingKind⟩
      | _ =>
          rw [kind] at read
          cases read

theorem segments_succ (deeper : ReadsSpelled finish depth) (ends : finish.kind = .finish)
    {segments : List Segment} (unfinished : Unfinished tokens)
    (read : parseSegments (depth + 1) (Cursor.over finish tokens) = .ok (segments, after)) :
    Taken finish tokens (.segments segments) after := by
  rw [parseSegments] at read
  cases kind : (Cursor.over finish tokens).kind with
  | dot =>
      rw [kind] at read
      obtain ⟨dot, behindDot, rfl, dotKind, advanced⟩ := Cursor.over_at ends kind (by decide)
      rw [advanced] at read
      dsimp only at read
      cases nameKind : (Cursor.over finish behindDot).kind with
      | identifier =>
          rw [nameKind] at read
          obtain ⟨name, rest, rfl, nameKind, advancedName⟩ :=
            Cursor.over_at ends nameKind (by decide)
          obtain ⟨⟨later, afterLater⟩, laterRead, read⟩ := bind_eq_ok.1 read
          cases read
          rw [advancedName] at laterRead
          obtain ⟨middle, back, rfl, rfl, laterSpelled⟩ :=
            deeper (.segments later) _ _ unfinished.tail.tail laterRead
          exact ⟨dot :: name :: middle, back, rfl, rfl, .property dotKind nameKind laterSpelled⟩
      | number =>
          rw [nameKind] at read
          obtain ⟨number, rest, rfl, nameKind, advancedName⟩ :=
            Cursor.over_at ends nameKind (by decide)
          dsimp only at read
          rw [advancedName, Cursor.over_cons_current] at read
          cases named : numberProperties? number.value with
          | none =>
              rw [named] at read
              cases read
          | some properties =>
              rw [named] at read
              obtain ⟨⟨later, afterLater⟩, laterRead, read⟩ := bind_eq_ok.1 read
              cases read
              obtain ⟨middle, back, rfl, rfl, laterSpelled⟩ :=
                deeper (.segments later) _ _ unfinished.tail.tail laterRead
              exact ⟨dot :: number :: middle, back, rfl, rfl,
                .numberProperties dotKind nameKind named laterSpelled⟩
      | _ =>
          rw [nameKind] at read
          cases read
  | leftBracket =>
      rw [kind] at read
      obtain ⟨opening, behindOpening, rfl, openingKind, advanced⟩ :=
        Cursor.over_at ends kind (by decide)
      rw [advanced] at read
      obtain ⟨⟨key, afterKey⟩, keyRead, read⟩ := bind_eq_ok.1 read
      obtain ⟨afterClosing, closingFound, read⟩ := bind_eq_ok.1 read
      obtain ⟨⟨later, afterLater⟩, laterRead, read⟩ := bind_eq_ok.1 read
      cases read
      obtain ⟨inside, closing, behindClosing, rfl, rfl, closingKind, keySpelled⟩ :=
        deeper.closed ends (.expression key) (by decide) unfinished.tail keyRead closingFound
      obtain ⟨middle, back, rfl, rfl, laterSpelled⟩ :=
        deeper (.segments later) _ _ unfinished.tail.behind.tail laterRead
      exact ⟨opening :: (inside ++ closing :: middle), back, by simp, rfl,
        .index openingKind keySpelled closingKind laterSpelled⟩
  | _ =>
      rw [kind] at read
      cases read
      exact ⟨[], tokens, rfl, rfl, .noSegments⟩

theorem items_succ (deeper : ReadsSpelled finish depth) (ends : finish.kind = .finish)
    {items : List Expr} (unfinished : Unfinished tokens)
    (read : parseItems (depth + 1) (Cursor.over finish tokens) = .ok (items, after)) :
    Taken finish tokens (.items items) after := by
  rw [parseItems] at read
  by_cases closed : (Cursor.over finish tokens).kind = .rightBracket
  · rw [if_pos closed] at read
    cases read
    exact ⟨[], tokens, rfl, rfl, .noItems⟩
  · rw [if_neg closed] at read
    obtain ⟨⟨first, afterFirst⟩, firstRead, read⟩ := bind_eq_ok.1 read
    obtain ⟨front, rest, rfl, rfl, firstSpelled⟩ :=
      deeper (.expression first) _ _ unfinished firstRead
    dsimp only at read
    by_cases another : (Cursor.over finish rest).kind = .comma
    · rw [if_pos another] at read
      obtain ⟨comma, behindComma, rfl, commaKind, advanced⟩ :=
        Cursor.over_at ends another (by decide)
      rw [advanced] at read
      obtain ⟨⟨later, afterLater⟩, laterRead, read⟩ := bind_eq_ok.1 read
      cases read
      obtain ⟨middle, back, rfl, rfl, laterSpelled⟩ :=
        deeper (.items later) _ _ unfinished.behind.tail laterRead
      exact ⟨front ++ comma :: middle, back, by simp, rfl,
        .item firstSpelled commaKind laterSpelled⟩
    · rw [if_neg another] at read
      cases read
      exact ⟨front, rest, rfl, rfl, .lastItem firstSpelled⟩

theorem entries_succ (deeper : ReadsSpelled finish depth) (ends : finish.kind = .finish)
    {entries : List (String × Expr)} (unfinished : Unfinished tokens)
    (read : parseEntries (depth + 1) (Cursor.over finish tokens) = .ok (entries, after)) :
    Taken finish tokens (.entries entries) after := by
  rw [parseEntries] at read
  by_cases closed : (Cursor.over finish tokens).kind = .rightBrace
  · rw [if_pos closed] at read
    cases read
    exact ⟨[], tokens, rfl, rfl, .noEntries⟩
  · rw [if_neg closed] at read
    obtain ⟨⟨first, afterFirst⟩, firstRead, read⟩ := bind_eq_ok.1 read
    obtain ⟨front, rest, rfl, rfl, firstSpelled⟩ := deeper (.entry first) _ _ unfinished firstRead
    dsimp only at read
    by_cases another : (Cursor.over finish rest).kind = .comma
    · rw [if_pos another] at read
      obtain ⟨comma, behindComma, rfl, commaKind, advanced⟩ :=
        Cursor.over_at ends another (by decide)
      rw [advanced] at read
      obtain ⟨⟨later, afterLater⟩, laterRead, read⟩ := bind_eq_ok.1 read
      cases read
      obtain ⟨middle, back, rfl, rfl, laterSpelled⟩ :=
        deeper (.entries later) _ _ unfinished.behind.tail laterRead
      exact ⟨front ++ comma :: middle, back, by simp, rfl,
        .entries firstSpelled commaKind laterSpelled⟩
    · rw [if_neg another] at read
      cases read
      exact ⟨front, rest, rfl, rfl, .lastEntry firstSpelled⟩

theorem entry_succ (deeper : ReadsSpelled finish depth) (ends : finish.kind = .finish)
    {entry : String × Expr} (unfinished : Unfinished tokens)
    (read : parseEntry (depth + 1) (Cursor.over finish tokens) = .ok (entry, after)) :
    Taken finish tokens (.entry entry) after := by
  rw [parseEntry] at read
  by_cases isKey : (Cursor.over finish tokens).kind = .identifier ∨
      (Cursor.over finish tokens).kind = .string
  · rw [if_pos isKey] at read
    cases tokens with
    | nil =>
        rw [show (Cursor.over finish []).kind = .finish from ends] at isKey
        exact absurd isKey (by decide)
    | cons key rest =>
        rw [Cursor.over_cons_kind] at isKey
        dsimp only at read
        rw [Cursor.advance_over_cons unfinished.head, Cursor.over_cons_kind,
          Cursor.over_cons_current] at read
        by_cases spelled : (Cursor.over finish rest).kind = .colon
        · rw [if_pos spelled] at read
          obtain ⟨colon, behindColon, rfl, colonKind, advanced⟩ :=
            Cursor.over_at ends spelled (by decide)
          rw [advanced] at read
          obtain ⟨⟨value, afterValue⟩, valueRead, read⟩ := bind_eq_ok.1 read
          cases read
          obtain ⟨middle, back, rfl, rfl, valueSpelled⟩ :=
            deeper (.expression value) _ _ unfinished.tail.tail valueRead
          exact ⟨key :: colon :: middle, back, rfl, rfl, .keyValue isKey colonKind valueSpelled⟩
        · rw [if_neg spelled] at read
          by_cases named : key.kind = .identifier
          · rw [if_pos named] at read
            cases read
            exact ⟨[key], rest, rfl, rfl, .shorthand named⟩
          · rw [if_neg named] at read
            cases read
  · rw [if_neg isKey] at read
    cases read

end ReadsSpelled

/-- Whatever the descent reads from a row that ends is spelled by the front of that row. -/
theorem readsSpelled {finish : Token} (ends : finish.kind = .finish) :
    ∀ depth, ReadsSpelled finish depth
  | 0 => by
      intro phrase tokens after _ read
      cases phrase <;> cases read
  | depth + 1 => by
      have deeper := readsSpelled ends depth
      intro phrase tokens after unfinished read
      cases phrase with
      | expression pipeline => exact deeper.expression_succ unfinished read
      | stages stages => exact deeper.stages_succ ends unfinished read
      | argumentList filter arguments => exact deeper.argumentList_succ ends unfinished read
      | arguments arguments => exact deeper.arguments_succ ends unfinished read
      | primary expr => exact deeper.primary_succ ends unfinished read
      | segments segments => exact deeper.segments_succ ends unfinished read
      | items items => exact deeper.items_succ ends unfinished read
      | entries entries => exact deeper.entries_succ ends unfinished read
      | entry entry => exact deeper.entry_succ ends unfinished read

end Folio.Template
