import Folio.Template.Word

/-!
Contract: one word of an expression at a time.

Owns: what the words of a text are when its first character is blank, faulty or the start of a word;
how each kind of word is spelled; and the derivation of the tokens of a text, word by word, on which
inductions over a text run.

Does not own: the order of words, and what they mean.
-/

namespace Folio.Template

open Folio.Text

/-! ## The front of a text -/

section Front

variable {previous : Option TokenKind} {place : Position} {char : Char} {rest : List Char}

theorem words_of_blank (isBlank : front previous char rest = .blank) :
    words previous place (char :: rest) = words previous (place.after char) rest := by
  rw [words.eq_2, isBlank]

theorem words_of_fault {cause : SyntaxCause} (isFault : front previous char rest = .fault cause) :
    words previous place (char :: rest) = .error (.of cause place) := by
  rw [words.eq_2, isFault]

theorem words_of_word {kind : TokenKind} {more value : List Char}
    (isWord : front previous char rest = .word kind more value) :
    words previous place (char :: rest) =
      (words (some kind) ((place.after char).past more) (rest.drop more.length)).map
        (⟨kind, String.ofList value, place⟩ :: ·) := by
  rw [words.eq_2, isWord]
  dsimp only
  generalize words (some kind) ((place.after char).past more) (rest.drop more.length) = behind
  cases behind with
  | error error => rfl
  | ok tokens => rfl

end Front

/-! ## Strings -/

theorem isQuote_ne_backslash {quote : Char} (quotes : isQuote quote = true) : quote ≠ '\\' := by
  rintro rfl
  exact absurd quotes (by decide)

/-- A character that is no backslash ends the string or belongs to it as it is. -/
theorem spanString_cons {quote char : Char} {rest : List Char} (unescaped : char ≠ '\\') :
    spanString quote (char :: rest) =
      if char = quote then some ([], rest)
      else (spanString quote rest).map fun (inside, after) => (char :: inside, after) := by
  rw [spanString]
  intro escaped rest' isBackslash _
  exact unescaped isBackslash

/-- A string ends at its quote: what stands inside is shielded, and anything may stand behind. -/
theorem spanString_append {quote : Char} {chars inside after : List Char}
    (quotes : isQuote quote = true) (found : spanString quote chars = some (inside, after)) :
    chars = inside ++ quote :: after ∧
      ∀ other, spanString quote (inside ++ quote :: other) = some (inside, other) := by
  fun_induction spanString quote chars generalizing inside with
  | case1 => cases found
  | case2 escaped rest inductionHypothesis =>
      obtain ⟨⟨tail, behind⟩, tailFound, same⟩ := Option.map_eq_some_iff.1 found
      cases same
      obtain ⟨rfl, anywhere⟩ := inductionHypothesis tailFound
      refine ⟨rfl, fun other => ?_⟩
      change spanString quote ('\\' :: escaped :: (tail ++ quote :: other)) = _
      rw [spanString, anywhere]
      rfl
  | case3 rest notEscape =>
      cases found
      refine ⟨rfl, fun other => ?_⟩
      change spanString quote (quote :: other) = _
      rw [spanString_cons (isQuote_ne_backslash quotes), if_pos rfl]
  | case4 char rest notEscape notQuote inductionHypothesis =>
      obtain ⟨⟨tail, behind⟩, tailFound, same⟩ := Option.map_eq_some_iff.1 found
      cases same
      obtain ⟨rfl, anywhere⟩ := inductionHypothesis tailFound
      have unescaped : char ≠ '\\' := by
        intro isBackslash
        cases tail with
        | nil => exact notEscape quote after isBackslash rfl
        | cons next tail => exact notEscape next (tail ++ quote :: after) isBackslash rfl
      refine ⟨rfl, fun other => ?_⟩
      change spanString quote (char :: (tail ++ quote :: other)) = _
      rw [spanString_cons unescaped, if_neg notQuote, anywhere]
      rfl

/-! ## Numbers -/

/-- The characters of numerals. -/
def isNumeralChar (char : Char) : Bool :=
  char = '-' || char = '.' || isDigit char

theorem settleDigits_split {digits rest settled : List Char}
    (found : settleDigits digits rest = some settled) : settled <+: digits ∧ settled ≠ [] := by
  have taken : (if nameFollows rest then digits.dropLast else digits) <+: digits := by
    split
    · exact List.dropLast_prefix digits
    · exact List.prefix_refl digits
  unfold settleDigits at found
  dsimp only at found
  generalize (if nameFollows rest then digits.dropLast else digits) = kept at taken found
  by_cases empty : kept.isEmpty
  · rw [if_pos empty] at found
    cases found
  · rw [if_neg empty] at found
    cases found
    exact ⟨taken, by simpa using empty⟩

theorem isNumeralChar_of_digits {chars digits : List Char}
    (taken : digits <+: chars.takeWhile isDigit) : ∀ char ∈ digits, isNumeralChar char = true := by
  intro char member
  have isDigit : isDigit char = true :=
    List.all_eq_true.1 List.all_takeWhile char (taken.subset member)
  simp [isNumeralChar, isDigit]

theorem fractionSpan_prefix {chars fraction : List Char} (found : fractionSpan chars = some fraction) :
    fraction <+: chars ∧ fraction ≠ [] ∧ ∀ char ∈ fraction, isNumeralChar char = true := by
  unfold fractionSpan at found
  split at found
  · rename_i rest
    obtain ⟨digits, digitsFound, rfl⟩ := Option.map_eq_some_iff.1 found
    have taken := (settleDigits_split digitsFound).1
    refine ⟨?_, by simp, ?_⟩
    · exact List.cons_prefix_cons.2 ⟨rfl, taken.trans (List.takeWhile_prefix _)⟩
    · intro char member
      rcases List.mem_cons.1 member with rfl | member
      · rfl
      · exact isNumeralChar_of_digits taken char member
  · cases found

theorem magnitudeSpan_prefix {chars magnitude : List Char}
    (found : magnitudeSpan chars = some magnitude) :
    magnitude <+: chars ∧ magnitude ≠ [] ∧ ∀ char ∈ magnitude, isNumeralChar char = true := by
  unfold magnitudeSpan at found
  dsimp only at found
  have wholeRest : chars.takeWhile isDigit ++ chars.dropWhile isDigit = chars :=
    List.takeWhile_append_dropWhile
  split at found
  · rename_i noWhole
    have empty : chars.takeWhile isDigit = [] := List.isEmpty_iff.1 noWhole
    rw [empty, List.nil_append] at wholeRest
    rw [wholeRest] at found
    exact fractionSpan_prefix found
  · rename_i whole
    split at found
    · rename_i fraction fractionFound
      cases found
      obtain ⟨taken, -, digits⟩ := fractionSpan_prefix fractionFound
      refine ⟨?_, List.append_ne_nil_of_left_ne_nil (by simpa using whole) _, ?_⟩
      · conv => rhs; rw [← wholeRest]
        exact (List.prefix_append_right_inj _).2 taken
      · intro char member
        rcases List.mem_append.1 member with member | member
        · exact isNumeralChar_of_digits (List.prefix_refl _) char member
        · exact digits char member
    · obtain ⟨taken, nonempty⟩ := settleDigits_split found
      exact ⟨taken.trans (List.takeWhile_prefix _), nonempty, isNumeralChar_of_digits taken⟩

/-- A number is a row of numeral characters in front of the text. -/
theorem numberSpan_prefix {chars number : List Char} (found : numberSpan chars = some number) :
    number <+: chars ∧ number ≠ [] ∧ ∀ char ∈ number, isNumeralChar char = true := by
  unfold numberSpan at found
  split at found
  · rename_i rest
    obtain ⟨magnitude, magnitudeFound, rfl⟩ := Option.map_eq_some_iff.1 found
    obtain ⟨taken, -, digits⟩ := magnitudeSpan_prefix magnitudeFound
    refine ⟨List.cons_prefix_cons.2 ⟨rfl, taken⟩, by simp, ?_⟩
    intro char member
    rcases List.mem_cons.1 member with rfl | member
    · rfl
    · exact digits char member
  · exact magnitudeSpan_prefix found

/-! ## Spellings -/

/-- How the words of each kind are written, and the value that a token has of it. -/
inductive Spelling : TokenKind → List Char → List Char → Prop where
  | string {quote : Char} {inside : List Char} :
      isQuote quote = true →
      (∀ other, spanString quote (inside ++ quote :: other) = some (inside, other)) →
      Spelling .string (quote :: (inside ++ [quote])) (decodeString inside)
  | number {char : Char} {more : List Char} :
      (∀ other ∈ char :: more, isNumeralChar other = true) →
      Spelling .number (char :: more) (char :: more)
  | name {char : Char} {more : List Char} :
      startsName char = true → (∀ other ∈ more, continuesName other = true) →
      Spelling .identifier (char :: more) (char :: more)
  | mark {kind : TokenKind} {char : Char} :
      punctuation? char = some kind → Spelling kind [char] [char]

/-- What stands in front of a text is a blank, a fault, or a word in one of the spellings. -/
theorem front_cases (previous : Option TokenKind) (char : Char) (rest : List Char) :
    (front previous char rest = .blank ∧ isBlank char = true) ∨
      (∃ cause, front previous char rest = .fault cause ∧
        (cause = .unterminatedString →
          isQuote char = true ∧ spanString char rest = none)) ∨
      ∃ kind more value after, rest = more ++ after ∧
        front previous char rest = .word kind more value ∧ Spelling kind (char :: more) value := by
  unfold front
  by_cases blank : isBlank char
  · exact .inl ⟨by rw [if_pos blank], blank⟩
  rw [if_neg blank]
  by_cases quotes : isQuote char
  · rw [if_pos quotes]
    cases found : spanString char rest with
    | none => exact .inr (.inl ⟨_, rfl, fun _ => ⟨quotes, rfl⟩⟩)
    | some split =>
        obtain ⟨inside, after⟩ := split
        obtain ⟨isRest, anywhere⟩ := spanString_append quotes found
        refine .inr (.inr ⟨_, _, _, after, ?_, rfl, .string quotes anywhere⟩)
        rw [isRest, List.append_assoc, List.singleton_append]
  rw [if_neg quotes]
  cases numbered : numberInFront previous char rest with
  | some number =>
      have found : numberSpan (char :: rest) = some number := by
        unfold numberInFront at numbered
        split at numbered
        · cases numbered
        · exact numbered
      obtain ⟨⟨after, isText⟩, nonempty, digits⟩ := numberSpan_prefix found
      cases number with
      | nil => exact absurd rfl nonempty
      | cons first more =>
          cases isText
          exact .inr (.inr ⟨_, _, _, after, rfl, rfl, .number digits⟩)
  | none =>
      dsimp only
      by_cases named : startsName char
      · rw [if_pos named]
        refine .inr (.inr ⟨_, _, _, rest.dropWhile continuesName, ?_, rfl, .name named ?_⟩)
        · exact List.takeWhile_append_dropWhile.symm
        · exact List.all_eq_true.1 List.all_takeWhile
      · rw [if_neg named]
        cases marked : punctuation? char with
        | none => exact .inr (.inl ⟨_, rfl, fun isString => by cases isString⟩)
        | some kind => exact .inr (.inr ⟨kind, [], [char], rest, rfl, rfl, .mark marked⟩)

theorem isBlank_of_front {previous : Option TokenKind} {char : Char} {rest : List Char}
    (found : front previous char rest = .blank) : isBlank char = true := by
  rcases front_cases previous char rest with ⟨-, blank⟩ | ⟨_, isFault, -⟩ | ⟨_, _, _, _, -, isWord, -⟩
  · exact blank
  · cases found.symm.trans isFault
  · cases found.symm.trans isWord

/-! ## Derivations -/

/-- The tokens of a text, word by word. -/
inductive Lexes : Option TokenKind → Position → List Char → List Token → Prop where
  | finish {previous : Option TokenKind} {place : Position} :
      Lexes previous place [] [⟨.finish, "", place⟩]
  | blank {previous : Option TokenKind} {place : Position} {char : Char} {rest : List Char}
      {tokens : List Token} :
      isBlank char = true → Lexes previous (place.after char) rest tokens →
      Lexes previous place (char :: rest) tokens
  | word {previous : Option TokenKind} {place : Position} {kind : TokenKind} {char : Char}
      {more rest value : List Char} {tokens : List Token} :
      Spelling kind (char :: more) value →
      Lexes (some kind) ((place.after char).past more) rest tokens →
      Lexes previous place (char :: (more ++ rest)) (⟨kind, String.ofList value, place⟩ :: tokens)

theorem lexes_of_words {previous : Option TokenKind} {place : Position} {chars : List Char}
    {tokens : List Token} (found : words previous place chars = .ok tokens) :
    Lexes previous place chars tokens := by
  fun_induction words previous place chars generalizing tokens with
  | case1 previous place =>
      cases found
      exact .finish
  | case2 previous place char rest isBlank inductionHypothesis =>
      exact .blank (isBlank_of_front isBlank) (inductionHypothesis found)
  | case3 => cases found
  | case4 => cases found
  | case5 previous place char rest kind more value isWord later laterFound inductionHypothesis =>
      cases found
      rcases front_cases previous char rest with
        ⟨isBlank, -⟩ | ⟨_, isFault, -⟩ | ⟨_, _, _, after, isRest, isWord', spelled⟩
      · cases isWord.symm.trans isBlank
      · cases isWord.symm.trans isFault
      · cases isWord.symm.trans isWord'
        subst isRest
        rw [List.drop_left] at laterFound inductionHypothesis
        exact .word spelled (inductionHypothesis laterFound)

/-- The marks that are braces, and those that are none. -/
theorem punctuation?_brace {char : Char} {kind : TokenKind} (marked : punctuation? char = some kind) :
    isQuote char = false ∧ kind ≠ .finish ∧ kind ≠ .string ∧ (kind = .leftBrace ↔ char = '{') ∧
      (kind = .rightBrace ↔ char = '}') := by
  unfold punctuation? at marked
  repeat' split at marked
  all_goals cases marked
  all_goals
    subst char
    decide

/-- A mark is neither a number nor a name. -/
theorem punctuation?_ne_word {char : Char} {kind : TokenKind} (marked : punctuation? char = some kind) :
    kind ≠ .number ∧ kind ≠ .identifier := by
  unfold punctuation? at marked
  repeat' split at marked
  all_goals cases marked
  all_goals decide

/-- A word is no finish token. -/
theorem Spelling.kind_ne_finish {kind : TokenKind} {chars value : List Char}
    (spelled : Spelling kind chars value) : kind ≠ .finish := by
  cases spelled with
  | mark marked => exact (punctuation?_brace marked).2.1
  | _ => decide

/-- The tokens of a text end with their only finish token. -/
theorem Lexes.ends {previous : Option TokenKind} {place : Position} {chars : List Char}
    {tokens : List Token} (lexed : Lexes previous place chars tokens) :
    ∃ row finish, tokens = row ++ [finish] ∧ finish.kind = .finish ∧
      ∀ token ∈ row, token.kind ≠ .finish := by
  induction lexed with
  | finish => exact ⟨[], _, rfl, rfl, by simp⟩
  | blank _ _ inductionHypothesis => exact inductionHypothesis
  | word spelled _ inductionHypothesis =>
      obtain ⟨row, finish, rfl, ends, unfinished⟩ := inductionHypothesis
      refine ⟨_ :: row, finish, rfl, ends, ?_⟩
      intro token member
      rcases List.mem_cons.1 member with rfl | member
      · exact spelled.kind_ne_finish
      · exact unfinished token member

end Folio.Template
