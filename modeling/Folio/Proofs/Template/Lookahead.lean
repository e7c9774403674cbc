import Folio.Proofs.Template.Places
import Folio.Proofs.Template.Words

/-!
Contract: how far words look ahead.

Owns: that a mark other than the point ends every word before it, as every character does that no name and no number
goes on with, so that the words up to it do not depend on what stands behind it; and where a name of a text stands.

Does not own: what the words mean.
-/

namespace Folio.Template

open Folio.Text

/-! ## Spans in front of a mark -/

/-- A mark, though not the point, which may belong to a number. -/
def IsWall (char : Char) : Prop :=
  char ≠ '.' ∧ ∃ kind, punctuation? char = some kind

theorem IsWall.facts {char : Char} (isWall : IsWall char) :
    isBlank char = false ∧ isQuote char = false ∧ isDigit char = false ∧ char ≠ '-' ∧ startsName char = false ∧
      continuesName char = false := by
  obtain ⟨-, _, marked⟩ := isWall
  exact punctuation?_facts marked

/-- A character that no name and no number goes on with, so that it ends every word before it. -/
structure EndsWords (char : Char) : Prop where
  noPoint : char ≠ '.'
  noDigit : isDigit char = false
  noName : startsName char = false
  goesOnNoName : continuesName char = false

theorem IsWall.endsWords {char : Char} (isWall : IsWall char) : EndsWords char :=
  ⟨isWall.1, isWall.facts.2.2.1, isWall.facts.2.2.2.2.1, isWall.facts.2.2.2.2.2⟩

section Walls

variable {wall : Char} (ends : EndsWords wall) (chars rest : List Char)

theorem takeWhile_wall {isMember : Char → Bool} (outside : isMember wall = false) :
    (chars ++ wall :: rest).takeWhile isMember = chars.takeWhile isMember ∧
      (chars ++ wall :: rest).dropWhile isMember = chars.dropWhile isMember ++ wall :: rest := by
  induction chars with
  | nil => simp [outside]
  | cons char chars inductionHypothesis =>
      by_cases isInside : isMember char = true
      · simp [isInside, inductionHypothesis]
      · simp [isInside]

include ends

theorem settleDigits_wall (digits : List Char) :
    settleDigits digits (chars ++ wall :: rest) = settleDigits digits chars := by
  have sameName : nameFollows (chars ++ wall :: rest) = nameFollows chars := by
    cases chars with
    | nil => exact ends.noName
    | cons char chars => rfl
  rw [settleDigits, settleDigits, sameName]

theorem fractionSpan_wall : fractionSpan (chars ++ wall :: rest) = fractionSpan chars := by
  cases chars with
  | nil =>
      rw [List.nil_append, fractionSpan]
      · rfl
      · intro _ isPoint
        exact ends.noPoint (List.cons.inj isPoint).1
  | cons char chars =>
      obtain ⟨taken, dropped⟩ := takeWhile_wall chars rest ends.noDigit
      by_cases isPoint : char = '.'
      · subst isPoint
        rw [List.cons_append, fractionSpan, fractionSpan, taken, dropped, settleDigits_wall ends]
      · rw [List.cons_append, fractionSpan, fractionSpan]
        · intro _ same
          exact isPoint (List.cons.inj same).1
        · intro _ same
          exact isPoint (List.cons.inj same).1

theorem magnitudeSpan_wall : magnitudeSpan (chars ++ wall :: rest) = magnitudeSpan chars := by
  obtain ⟨taken, dropped⟩ := takeWhile_wall chars rest ends.noDigit
  rw [magnitudeSpan, magnitudeSpan, taken, dropped, fractionSpan_wall ends, settleDigits_wall ends]

/-- A number ends before such a character, whatever stands behind it. -/
theorem numberSpan_wall (char : Char) :
    numberSpan (char :: (chars ++ wall :: rest)) = numberSpan (char :: chars) := by
  by_cases isMinus : char = '-'
  · subst isMinus
    rw [numberSpan, numberSpan, magnitudeSpan_wall ends]
  · rw [numberSpan_cons isMinus, numberSpan_cons isMinus]
    exact magnitudeSpan_wall ends (char :: chars) rest

end Walls

/-- A string that ends in a text ends there whatever stands behind its quote. -/
theorem spanString_elsewhere {quote : Char} (quotes : isQuote quote = true) {inside behind after : List Char}
    (found : spanString quote (inside ++ quote :: behind) = some (inside, after)) (other : List Char) :
    spanString quote (inside ++ quote :: other) = some (inside, other) :=
  (spanString_append quotes found).2 other

/-- A word in front of a character that ends words is the same where the text ends instead. -/
theorem front_wall_iff {wall : Char} (ends : EndsWords wall) (rest : List Char) {previous : Option TokenKind}
    {char : Char} {chars : List Char} {kind : TokenKind} {more value : List Char} :
    front previous char (more ++ chars ++ wall :: rest) = .word kind more value ↔
      front previous char (more ++ chars) = .word kind more value := by
  unfold front
  by_cases blank : isBlank char = true
  · simp [blank]
  rw [if_neg blank, if_neg blank]
  by_cases quotes : isQuote char = true
  · rw [if_pos quotes, if_pos quotes]
    -- The word is the string with its quote, so both texts hold it and go on behind it.
    constructor
    · intro isWord
      split at isWord
      · rename_i inside after found
        cases isWord
        rw [List.append_assoc, List.append_assoc, List.singleton_append] at found
        rw [List.append_assoc, List.singleton_append, spanString_elsewhere quotes found]
      · cases isWord
    · intro isWord
      split at isWord
      · rename_i inside after found
        cases isWord
        rw [List.append_assoc, List.singleton_append] at found
        rw [List.append_assoc, List.append_assoc, List.singleton_append, spanString_elsewhere quotes found]
      · cases isWord
  · have sameName := (takeWhile_wall (more ++ chars) rest ends.goesOnNoName).1
    rw [if_neg quotes, if_neg quotes, numberInFront, numberInFront, numberSpan_wall ends, sameName]

/-! ## Words up to a mark -/

/-- A mark among the words of a text stands in the text as it is, and in front of it the words are the same whatever
stands behind it. -/
theorem scans_to_mark {previous : Option TokenKind} {place : Position} {chars : List Char} {before tokens : List Token}
    {mark : Token} (found : words previous place chars = .ok (before ++ mark :: tokens))
    (isMark : mark.kind = .leftBrace ∨ mark.kind = .comma) :
    ∃ ahead char rest, chars = ahead ++ char :: rest ∧ IsWall char ∧
      words (some mark.kind) (place.past (ahead ++ [char])) rest = .ok tokens ∧
        ∀ other, Scans previous place (ahead ++ [char]) (before ++ [mark]) (some mark.kind) other := by
  fun_induction words previous place chars generalizing before with
  | case1 previous place =>
      cases before with
      | nil =>
          cases found
          rcases isMark with isMark | isMark
          · cases isMark
          · cases isMark
      | cons token before => simp at found
  | case2 previous place char rest isBlank inductionHypothesis =>
      obtain ⟨ahead, wall, behind, rfl, isWall, tokensFound, scans⟩ := inductionHypothesis found
      refine ⟨char :: ahead, wall, behind, rfl, isWall, tokensFound, fun other => ?_⟩
      exact (Scans.of_blank (isBlank_of_front isBlank)).append (scans other)
  | case3 => cases found
  | case4 => cases found
  | case5 previous place char rest kind more value isWord later laterFound inductionHypothesis =>
      rcases front_cases previous char rest with
        ⟨isBlank, -⟩ | ⟨_, isFault, -⟩ | ⟨_, _, _, after, rfl, isWord', spelled⟩
      · cases isWord.symm.trans isBlank
      · cases isWord.symm.trans isFault
      cases isWord.symm.trans isWord'
      rw [List.drop_left] at laterFound inductionHypothesis
      cases before with
      | nil =>
          cases found
          cases spelled with
          | string => simp at isMark
          | number => simp at isMark
          | name => simp at isMark
          | mark marked =>
              have noPoint : char ≠ '.' := by
                rintro rfl
                cases marked
                simp at isMark
              exact ⟨[], char, after, rfl, ⟨noPoint, kind, marked⟩, laterFound,
                fun other => words_mark previous place marked noPoint other⟩
      | cons token before =>
          cases found
          obtain ⟨ahead, wall, behind, rfl, isWall, tokensFound, scans⟩ := inductionHypothesis laterFound
          refine ⟨char :: more ++ ahead, wall, behind, by simp, isWall, ?_, fun other => ?_⟩
          · rw [List.append_assoc, Position.past_append]
            exact tokensFound
          · rw [← List.append_assoc] at isWord
            have isAlone := (front_wall_iff isWall.endsWords behind).1 isWord
            have sameWord := (front_wall_iff isWall.endsWords other).2 isAlone
            rw [List.append_assoc, List.append_cons ahead] at sameWord
            have isRow := (Scans.of_front sameWord).append (scans other)
            rwa [← List.append_assoc] at isRow

/-- The words of a whole text are the same in front of a character that ends words. -/
theorem scans_of_words {previous : Option TokenKind} {place : Position} {chars : List Char} {row : List Token}
    {finish : Token} (found : words previous place chars = .ok (row ++ [finish])) :
    finish = ⟨.finish, "", place.past chars⟩ ∧
      ∃ last, ∀ wall, EndsWords wall → ∀ other, Scans previous place chars row last (wall :: other) := by
  fun_induction words previous place chars generalizing row with
  | case1 previous place =>
      have isRow : row ++ [finish] = [] ++ [⟨.finish, "", place⟩] := (Except.ok.inj found).symm
      obtain ⟨rfl, sameFinish⟩ := List.append_inj' isRow rfl
      cases sameFinish
      exact ⟨rfl, previous, fun _ _ _ => .nothing⟩
  | case2 previous place char rest isBlank inductionHypothesis =>
      obtain ⟨isFinish, last, scans⟩ := inductionHypothesis found
      refine ⟨isFinish, last, fun wall ends other => ?_⟩
      exact (Scans.of_blank (isBlank_of_front isBlank)).append (scans wall ends other)
  | case3 => cases found
  | case4 => cases found
  | case5 previous place char rest kind more value isWord later laterFound inductionHypothesis =>
      rcases front_cases previous char rest with
        ⟨isBlank, -⟩ | ⟨_, isFault, -⟩ | ⟨_, _, _, after, rfl, isWord', -⟩
      · cases isWord.symm.trans isBlank
      · cases isWord.symm.trans isFault
      cases isWord.symm.trans isWord'
      rw [List.drop_left] at laterFound inductionHypothesis
      cases row with
      | nil =>
          cases found
          obtain ⟨_, _, isNothing, -⟩ := (lexes_of_words laterFound).ends
          exact absurd isNothing.symm (List.append_ne_nil_of_right_ne_nil _ (List.cons_ne_nil _ _))
      | cons token row =>
          cases found
          obtain ⟨rfl, last, scans⟩ := inductionHypothesis laterFound
          refine ⟨by rw [← List.cons_append, Position.past_append]; rfl, last, fun wall ends other => ?_⟩
          have sameWord := (front_wall_iff ends other).2 isWord
          rw [List.append_assoc] at sameWord
          exact (Scans.of_front sameWord).append (scans wall ends other)

/-! ## Names -/

/-- A name runs up to a character that does not go on with it. -/
theorem front_identifier {previous : Option TokenKind} {char : Char} {rest more value : List Char}
    (isWord : front previous char rest = .word .identifier more value) :
    startsName char = true ∧ value = char :: more ∧
      ∃ back, rest = more ++ back ∧ (∀ other ∈ more, continuesName other = true) ∧
        ∀ next ∈ back.head?, continuesName next = false := by
  unfold front at isWord
  split at isWord
  · cases isWord
  split at isWord
  · split at isWord
    · cases isWord
    · cases isWord
  split at isWord
  · cases isWord
  split at isWord
  · rename_i starts
    cases isWord
    refine ⟨starts, rfl, rest.dropWhile continuesName, List.takeWhile_append_dropWhile.symm,
      List.all_eq_true.1 List.all_takeWhile, fun next isFirst => ?_⟩
    have outside := List.head?_dropWhile_not continuesName rest
    rw [isFirst] at outside
    simpa using outside
  · split at isWord
    · rename_i kind marked
      cases isWord
      exact absurd rfl (punctuation?_ne_word marked).2
    · cases isWord

/-- A name that is the first word of a text stands behind blanks, up to a character that does not go on with it. -/
theorem name_in_front {previous : Option TokenKind} {place : Position} {chars : List Char} {key : Token}
    {after : List Token} (found : words previous place chars = .ok (key :: after)) (isKey : key.kind = .identifier) :
    ∃ blanks back, chars = blanks ++ (key.value.toList ++ back) ∧ isName key.value = true ∧
      (∀ char ∈ back.head?, continuesName char = false) ∧ key.place = place.past blanks ∧
        (∀ behind, Scans previous place blanks [] previous behind) ∧
          words (some .identifier) (key.place.past key.value.toList) back = .ok after := by
  fun_induction words previous place chars with
  | case1 =>
      cases found
      cases isKey
  | case2 previous place char rest isBlank inductionHypothesis =>
      obtain ⟨blanks, back, rfl, named, ends, isPlace, scans, afterFound⟩ := inductionHypothesis found
      exact ⟨char :: blanks, back, rfl, named, ends, isPlace,
        fun behind => (Scans.of_blank (isBlank_of_front isBlank)).append (scans behind), afterFound⟩
  | case3 => cases found
  | case4 => cases found
  | case5 previous place char rest kind more value isWord later laterFound =>
      cases found
      cases isKey
      obtain ⟨starts, rfl, back, rfl, continues, ends⟩ := front_identifier isWord
      rw [List.drop_left] at laterFound
      refine ⟨[], back, ?_, ?_, ends, rfl, fun _ => .nothing, ?_⟩
      · simp
      · simpa [isName, starts] using continues
      · rw [String.toList_ofList]
        exact laterFound

end Folio.Template
