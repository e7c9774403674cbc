import Folio.Proofs.Number.Reading
import Folio.Proofs.Template.Printing

/-!
Contract: words in front of whatever cannot go on with them.

Owns: where a row of characters of one class ends; numerals in front of what is neither a digit nor a name; what
starts a name or a mark starts nothing else; shielded texts in quotes; and the words of a text that starts with a
blank, a mark, a point, a name, a number or a quoted text, each up to a character that does not belong to it; and
rows of words one behind the other.

Does not own: what rows of words mean.
-/

namespace Folio.Template

open Folio.Text Folio.Number

/-! ## Rows of one class of characters -/

/-- A row of characters of a class is taken as a whole in front of a character that is none of them. -/
theorem span_append {isMember : Char → Bool} {row behind : List Char}
    (members : ∀ char ∈ row, isMember char = true) (ends : ∀ char ∈ behind.head?, isMember char = false) :
    (row ++ behind).takeWhile isMember = row ∧ (row ++ behind).dropWhile isMember = behind := by
  have stops : behind.takeWhile isMember = [] ∧ behind.dropWhile isMember = behind := by
    cases behind with
    | nil => exact ⟨rfl, rfl⟩
    | cons char behind => simp [ends char rfl]
  rw [List.takeWhile_append_of_pos members, List.dropWhile_append_of_pos members, stops.1, stops.2]
  exact ⟨List.append_nil row, rfl⟩

/-! ## Numerals -/

/-- Neither a digit nor a name stands in front, so that a number may end here. -/
def EndsNumber (behind : List Char) : Prop :=
  ∀ char ∈ behind.head?, isDigit char = false ∧ startsName char = false

section Numerals

variable {row behind : List Char}

theorem settleDigits_eq (nonempty : row ≠ []) (ends : EndsNumber behind) : settleDigits row behind = some row := by
  have noName : nameFollows behind = false := by
    cases behind with
    | nil => rfl
    | cons char behind => exact (ends char rfl).2
  simp [settleDigits, noName, nonempty]

theorem fractionSpan_append (isRow : IsDigitRow row) (ends : EndsNumber behind) :
    fractionSpan ('.' :: (row ++ behind)) = some ('.' :: row) := by
  obtain ⟨taken, dropped⟩ := span_append isRow.digits fun char isFirst => (ends char isFirst).1
  rw [fractionSpan, taken, dropped, settleDigits_eq isRow.nonempty ends]
  rfl

/-- A point without a digit behind it is no fraction. -/
theorem fractionSpan_point (noDigit : ∀ char ∈ behind.head?, isDigit char = false) :
    fractionSpan ('.' :: behind) = none := by
  have noDigits : behind.takeWhile isDigit = [] :=
    (span_append (fun _ member => absurd member List.not_mem_nil) noDigit).1
  simp [fractionSpan, noDigits, settleDigits]

theorem magnitudeSpan_append (isRow : IsDigitRow row) (ends : EndsNumber behind)
    (noFraction : fractionSpan behind = none) : magnitudeSpan (row ++ behind) = some row := by
  obtain ⟨taken, dropped⟩ := span_append isRow.digits fun char isFirst => (ends char isFirst).1
  have nonempty : row.isEmpty = false := by simpa using isRow.nonempty
  rw [magnitudeSpan, taken, dropped, noFraction]
  simpa [nonempty] using settleDigits_eq isRow.nonempty ends

theorem magnitudeSpan_fraction {whole : List Char} (isWhole : IsDigitRow whole) (isRow : IsDigitRow row)
    (ends : EndsNumber behind) :
    magnitudeSpan (whole ++ '.' :: (row ++ behind)) = some (whole ++ '.' :: row) := by
  have point : ∀ char ∈ ('.' :: (row ++ behind)).head?, isDigit char = false := by
    simp only [List.head?_cons, Option.mem_def, Option.some.injEq, forall_eq']
    decide
  obtain ⟨taken, dropped⟩ := span_append isWhole.digits point
  have nonempty : whole.isEmpty = false := by simpa using isWhole.nonempty
  rw [magnitudeSpan, taken, dropped, fractionSpan_append isRow ends]
  simp [nonempty]

/-- What starts with another character than a minus is no negative number. -/
theorem numberSpan_cons {char : Char} (noMinus : char ≠ '-') (rest : List Char) :
    numberSpan (char :: rest) = magnitudeSpan (char :: rest) := by
  rw [numberSpan]
  intro _ isMinus
  exact noMinus (List.cons.inj isMinus).1

/-- A point with digits behind it is a number of its own. -/
theorem numberSpan_fraction (isRow : IsDigitRow row) (ends : EndsNumber behind) :
    numberSpan ('.' :: (row ++ behind)) = some ('.' :: row) := by
  have noDigit : isDigit '.' = false := by decide
  rw [numberSpan_cons (by decide), magnitudeSpan]
  simpa [noDigit] using fractionSpan_append isRow ends

theorem numberSpan_point (noDigit : ∀ char ∈ behind.head?, isDigit char = false) :
    numberSpan ('.' :: behind) = none := by
  have pointNoDigit : isDigit '.' = false := by decide
  rw [numberSpan_cons (by decide), magnitudeSpan]
  simpa [pointNoDigit] using fractionSpan_point noDigit

/-- Numbers start with a digit, a minus or a point. -/
theorem numberSpan_eq_none {char : Char} {rest : List Char} (noDigit : isDigit char = false)
    (noMinus : char ≠ '-') (noPoint : char ≠ '.') : numberSpan (char :: rest) = none := by
  have noFraction : fractionSpan (char :: rest) = none := by
    rw [fractionSpan]
    intro _ isPoint
    exact noPoint (List.cons.inj isPoint).1
  rw [numberSpan_cons noMinus, magnitudeSpan]
  simpa [noDigit] using noFraction

end Numerals

/-! ## Names and marks -/

/-- A character that starts a name starts nothing else. -/
theorem startsName_facts {char : Char} (starts : startsName char = true) :
    isBlank char = false ∧ isQuote char = false ∧ isDigit char = false ∧ char ≠ '-' ∧ char ≠ '.' := by
  have all : ∀ code : Fin 128, startsName (Char.ofNat code) = true →
      isBlank (Char.ofNat code) = false ∧ isQuote (Char.ofNat code) = false ∧
        isDigit (Char.ofNat code) = false ∧ Char.ofNat code ≠ '-' ∧ Char.ofNat code ≠ '.' := by
    decide
  have small : char.toNat < 128 := by
    simp only [startsName, Bool.or_eq_true, Bool.and_eq_true, decide_eq_true_eq, Char.le_def,
      UInt32.le_iff_toNat_le] at starts
    rcases starts with ((⟨-, high⟩ | ⟨-, high⟩) | rfl) | rfl
    · exact Nat.lt_of_le_of_lt high (by decide)
    · exact Nat.lt_of_le_of_lt high (by decide)
    · decide
    · decide
  have facts := all ⟨char.toNat, small⟩
  rw [Char.ofNat_toNat] at facts
  exact facts starts

/-- A mark is none of the characters that start other words, and no name goes on with it; only the point may start a
number. -/
theorem punctuation?_facts {char : Char} {kind : TokenKind} (marked : punctuation? char = some kind) :
    isBlank char = false ∧ isQuote char = false ∧ isDigit char = false ∧ char ≠ '-' ∧ startsName char = false ∧
      continuesName char = false := by
  unfold punctuation? at marked
  repeat' split at marked
  all_goals cases marked
  all_goals
    subst char
    decide

theorem isDigit_facts {char : Char} (digit : isDigit char = true) :
    isBlank char = false ∧ isQuote char = false ∧ char ≠ '-' ∧ char ≠ '.' := by
  have noBlank := isBlank_of_isDigit digit
  obtain ⟨noMinus, -, -, noPoint⟩ := ne_of_isDigit digit
  refine ⟨noBlank, ?_, noMinus, noPoint⟩
  rw [isQuote, Bool.or_eq_false_iff, decide_eq_false_iff_not, decide_eq_false_iff_not]
  constructor
  all_goals
    rintro rfl
    exact absurd digit (by decide)

/-! ## Strings -/

/-- A shielded text runs up to its quote, and means the text. -/
theorem spanString_shielded (text behind : List Char) :
    spanString '\'' (text.flatMap shield ++ '\'' :: behind) = some (text.flatMap shield, behind) := by
  induction text with
  | nil =>
      change spanString '\'' ('\'' :: behind) = _
      rw [spanString_cons (by decide), if_pos rfl]
      rfl
  | cons char text inductionHypothesis =>
      rw [List.flatMap_cons, List.append_assoc]
      unfold shield
      by_cases shielded : char = '\\' ∨ char = '\''
      · rw [if_pos shielded]
        change spanString '\'' ('\\' :: char :: (text.flatMap shield ++ '\'' :: behind)) = _
        rw [spanString, inductionHypothesis]
        rfl
      · rw [if_neg shielded]
        obtain ⟨noBackslash, noQuote⟩ := not_or.1 shielded
        change spanString '\'' (char :: (text.flatMap shield ++ '\'' :: behind)) = _
        rw [spanString_cons noBackslash, if_neg noQuote, inductionHypothesis]
        rfl

theorem decodeString_shielded (text : List Char) : decodeString (text.flatMap shield) = text := by
  induction text with
  | nil => rfl
  | cons char text inductionHypothesis =>
      rw [List.flatMap_cons]
      unfold shield
      by_cases shielded : char = '\\' ∨ char = '\''
      · rw [if_pos shielded]
        change decodeString ('\\' :: char :: text.flatMap shield) = _
        rw [decodeString, inductionHypothesis]
        rcases shielded with rfl | rfl
        · rfl
        · rfl
      · rw [if_neg shielded]
        change decodeString (char :: text.flatMap shield) = _
        rw [decodeString, inductionHypothesis]
        intro _ _ isBackslash _
        exact shielded (.inl isBackslash)

/-! ## Words and what stands behind them -/

/-- The character behind a name ends it. -/
theorem endsName {char : Char} {rest : List Char} (ends : continuesName char = false) :
    ∀ next ∈ (char :: rest).head?, continuesName next = false := by
  rintro next ⟨⟩
  exact ends

section Words

variable (previous : Option TokenKind) (place : Position)

theorem words_blank (rest : List Char) :
    words previous place (' ' :: rest) = words previous (place.after ' ') rest :=
  words_of_blank (by rfl)

/-- A mark other than the point ends where it starts. -/
theorem words_mark {char : Char} {kind : TokenKind} (marked : punctuation? char = some kind)
    (noPoint : char ≠ '.') (rest : List Char) :
    words previous place (char :: rest) =
      (words (some kind) (place.after char) rest).map (⟨kind, String.ofList [char], place⟩ :: ·) := by
  obtain ⟨noBlank, noQuote, noDigit, noMinus, noName, -⟩ := punctuation?_facts marked
  have noNumber : numberInFront previous char rest = none := by
    unfold numberInFront
    split
    · rfl
    · exact numberSpan_eq_none noDigit noMinus noPoint
  have isWord : front previous char rest = .word kind [] [char] := by
    simp [front, noBlank, noQuote, noNumber, noName, marked]
  rw [words_of_word isWord]
  rfl

/-- A point reads a property where a value has just ended, and where no digit stands behind it. -/
theorem words_point {rest : List Char}
    (isProperty : endsValue previous = true ∨ ∀ char ∈ rest.head?, isDigit char = false) :
    words previous place ('.' :: rest) =
      (words (some .dot) (place.after '.') rest).map (⟨.dot, ".", place⟩ :: ·) := by
  have noNumber : numberInFront previous '.' rest = none := by
    unfold numberInFront
    rcases isProperty with ends | noDigit
    · simp [ends]
    · simp [numberSpan_point noDigit]
  have isWord : front previous '.' rest = .word .dot [] ['.'] := by
    have facts : isBlank '.' = false ∧ isQuote '.' = false ∧ startsName '.' = false := by decide
    simp [front, facts, noNumber, punctuation?]
  rw [words_of_word isWord]
  rfl

/-- A number runs up to where it ends; with a point in front it is one only where no value has just ended. -/
theorem words_number {char : Char} {more rest : List Char} (noBlank : isBlank char = false)
    (noQuote : isQuote char = false) (isNumber : char = '.' → endsValue previous = false)
    (found : numberSpan (char :: (more ++ rest)) = some (char :: more)) :
    words previous place (char :: (more ++ rest)) =
      (words (some .number) (place.past (char :: more)) rest).map
        (⟨.number, String.ofList (char :: more), place⟩ :: ·) := by
  have numbered : numberInFront previous char (more ++ rest) = some (char :: more) := by
    unfold numberInFront
    split
    · rename_i isProperty
      simp only [Bool.and_eq_true, decide_eq_true_eq] at isProperty
      rw [isNumber isProperty.1] at isProperty
      cases isProperty.2
    · exact found
  have isWord : front previous char (more ++ rest) = .word .number more (char :: more) := by
    simp [front, noBlank, noQuote, numbered]
  rw [words_of_word isWord, List.drop_left]
  rfl

/-- A number that starts with a digit. -/
theorem words_magnitude {number rest : List Char} (starts : ∃ digit ∈ number.head?, isDigit digit = true)
    (found : magnitudeSpan (number ++ rest) = some number) :
    words previous place (number ++ rest) =
      (words (some .number) (place.past number) rest).map (⟨.number, String.ofList number, place⟩ :: ·) := by
  obtain ⟨char, isFirst, digit⟩ := starts
  obtain ⟨noBlank, noQuote, noMinus, noPoint⟩ := isDigit_facts digit
  cases number with
  | nil => cases isFirst
  | cons first more =>
      cases isFirst
      exact words_number previous place noBlank noQuote (fun isPoint => absurd isPoint noPoint)
        ((numberSpan_cons noMinus (more ++ rest)).trans found)

/-- A name runs up to a character that no name goes on with. -/
theorem words_name {name : String} (named : isName name = true) {rest : List Char}
    (ends : ∀ char ∈ rest.head?, continuesName char = false) :
    words previous place (name.toList ++ rest) =
      (words (some .identifier) (place.past name.toList) rest).map (⟨.identifier, name, place⟩ :: ·) := by
  unfold isName at named
  split at named
  · cases named
  rename_i char more isText
  simp only [Bool.and_eq_true, List.all_eq_true] at named
  obtain ⟨starts, continues⟩ := named
  obtain ⟨noBlank, noQuote, noDigit, noMinus, noPoint⟩ := startsName_facts starts
  have taken : (more ++ rest).takeWhile continuesName = more := (span_append continues ends).1
  have noNumber : numberInFront previous char (more ++ rest) = none := by
    unfold numberInFront
    split
    · rfl
    · exact numberSpan_eq_none noDigit noMinus noPoint
  have isWord : front previous char (more ++ rest) = .word .identifier more (char :: more) := by
    simp [front, noBlank, noQuote, noNumber, starts, taken]
  rw [isText, List.cons_append, words_of_word isWord, List.drop_left, ← isText, String.ofList_toList,
    isText]
  rfl

/-- A quoted text ends at its last quote and means the text. -/
theorem words_quoted (text : String) (rest : List Char) :
    words previous place ((Word.string text).spelling ++ rest) =
      (words (some .string) (place.past (Word.string text).spelling) rest).map
        (⟨.string, text, place⟩ :: ·) := by
  have found := spanString_shielded text.toList rest
  have quotes : isBlank '\'' = false ∧ isQuote '\'' = true := by decide
  have isWord : front previous '\'' (text.toList.flatMap shield ++ '\'' :: rest) =
      .word .string (text.toList.flatMap shield ++ ['\'']) text.toList := by
    simp [front, quotes, found, decodeString_shielded]
  have isSpelling : (Word.string text).spelling ++ rest =
      '\'' :: (text.toList.flatMap shield ++ '\'' :: rest) := by
    simp [Word.spelling]
  have behind : (text.toList.flatMap shield ++ '\'' :: rest).drop
      (text.toList.flatMap shield ++ ['\'']).length = rest := by
    rw [List.append_cons _ '\'' rest, List.drop_left]
  rw [isSpelling, words_of_word isWord, behind, String.ofList_toList]
  rfl

end Words

/-! ## Rows of words -/

/-- In front of `rest` the characters are a row of words, the last of the kind `last`, or none. -/
def Scans (previous : Option TokenKind) (place : Position) (chars : List Char) (row : List Token)
    (last : Option TokenKind) (rest : List Char) : Prop :=
  words previous place (chars ++ rest) = (words last (place.past chars) rest).map (row ++ ·)

namespace Scans

variable {previous middle last : Option TokenKind} {place : Position} {front back rest : List Char}
  {row others : List Token}

theorem nothing : Scans previous place [] [] previous rest := by
  rw [Scans, List.nil_append, Position.past_nil]
  cases words previous place rest <;> rfl

theorem of_front {char : Char} {kind : TokenKind} {more value : List Char}
    (isWord : Template.front previous char (more ++ rest) = .word kind more value) :
    Scans previous place (char :: more) [⟨kind, String.ofList value, place⟩] (some kind) rest := by
  rw [Scans, List.cons_append, words_of_word isWord, List.drop_left]
  rfl

theorem of_blank {char : Char} (blank : isBlank char = true) : Scans previous place [char] [] previous rest := by
  have isBlank : Template.front previous char rest = .blank := by
    rw [Template.front, if_pos blank]
  rw [Scans, List.singleton_append, words_of_blank isBlank]
  exact (nothing : Scans previous (place.after char) [] [] previous rest)

theorem append (scans : Scans previous place front row middle (back ++ rest))
    (backScans : Scans middle (place.past front) back others last rest) :
    Scans previous place (front ++ back) (row ++ others) last rest := by
  rw [Scans, List.append_assoc, scans, backScans, Position.past_append]
  cases words last ((place.past front).past back) rest with
  | error error => rfl
  | ok tokens => simp [Except.map]

/-- Where the text ends, the row is followed by the finish token. -/
theorem finish (scans : Scans previous place front row last []) :
    words previous place front = .ok (row ++ [⟨.finish, "", place.past front⟩]) := by
  rw [Scans, List.append_nil, words] at scans
  exact scans

end Scans

end Folio.Template
