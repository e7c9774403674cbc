import Mathlib.Data.List.TakeWhile
import Folio.Proofs.Site.Places

/-!
Contract: where the front matter of a page ends.

Owns: the lines of a text with the characters that end them; texts cut at two fences; and the law that a block is
seen wherever a text opens with a fence and another one follows, that it ends at the first one that follows, and
what of the text it takes. A fence just behind the opening one is passed over where yet another one follows.
-/

namespace Folio

open Folio.Text

namespace FrontMatter

/-! ## Lines with their ends -/

/-- The lines of a text, each with the characters that end it. Only the last one may lack them. -/
def linesOf : List Char → List (List Char)
  | [] => []
  | char :: rest =>
      if char = '\n' then [char] :: linesOf rest
      else match linesOf rest with
        | [] => [[char]]
        | line :: lines => (char :: line) :: lines

/-- What may stand at the end of a line: nothing on the last one, else a break, which a carriage return may
lead. -/
def IsEnding (ending : List Char) : Prop :=
  ending = [] ∨ ending = ['\n'] ∨ ending = ['\r', '\n']

/-- Three hyphens, spaces and tabs, and the end of the line. -/
def IsFenceLine (line : List Char) : Prop :=
  ∃ blanks ending, (∀ char ∈ blanks, char = ' ' ∨ char = '\t') ∧ IsEnding ending ∧
    line = '-' :: '-' :: '-' :: (blanks ++ ending)

def isEnded (line : List Char) : Bool :=
  line.getLast? == some '\n'

/-- Lines without the end of the last one. -/
def dropEnding (chars : List Char) : List Char :=
  match chars.reverse with
  | '\n' :: '\r' :: front => front.reverse
  | '\n' :: front => front.reverse
  | _ => chars

/-- The lines of a text of which the breaks are taken out. An empty last part is no line. -/
def endLines : List (List Char) → List (List Char)
  | [] => []
  | [last] => if last = [] then [] else [last]
  | part :: next :: parts => (part ++ ['\n']) :: endLines (next :: parts)

/-- What ends a part with these parts behind it. -/
def endBefore (after : List (List Char)) : List Char :=
  if after = [] then [] else ['\n']

theorem endLines_cons (part : List Char) {parts : List (List Char)} (remains : part ≠ [] ∨ parts ≠ []) :
    endLines (part :: parts) = (part ++ endBefore parts) :: endLines parts := by
  cases parts with
  | nil =>
      have nonempty : part ≠ [] := remains.resolve_right fun more => more rfl
      change (if part = [] then [] else [part]) = [part ++ []]
      rw [if_neg nonempty, List.append_nil]
  | cons next parts => rw [endLines, endBefore, if_neg (List.cons_ne_nil next parts)]

theorem linesOf_eq_endLines (chars : List Char) : linesOf chars = endLines (splitOn '\n' chars) := by
  induction chars with
  | nil => rfl
  | cons char rest inductionHypothesis =>
      by_cases isBreak : char = '\n'
      · rw [linesOf, splitOn, if_pos isBreak, if_pos isBreak, inductionHypothesis, isBreak,
          endLines_cons [] (.inr (splitOn_ne_nil '\n' rest)), endBefore, if_neg (splitOn_ne_nil '\n' rest)]
        rfl
      · obtain ⟨part, parts, isSplit, isSplit'⟩ := splitOn_cons_ne isBreak rest
        have nonempty : char :: part ≠ [] := List.cons_ne_nil char part
        rw [linesOf, if_neg isBreak, inductionHypothesis, isSplit, isSplit', endLines_cons _ (.inl nonempty)]
        by_cases isLast : part = [] ∧ parts = []
        · obtain ⟨rfl, rfl⟩ := isLast
          rfl
        · rw [endLines_cons part (Decidable.not_and_iff_or_not.1 isLast)]
          rfl

theorem flatten_endLines (parts : List (List Char)) : (endLines parts).flatten = joinWith '\n' parts := by
  induction parts with
  | nil => rfl
  | cons part parts inductionHypothesis =>
      cases parts with
      | nil =>
          rw [endLines]
          split
          · rename_i isEmpty
            rw [isEmpty]
            rfl
          · exact List.append_nil part
      | cons next parts =>
          rw [endLines, List.flatten_cons, inductionHypothesis, joinWith, List.append_assoc]
          rfl

/-- A text is all its lines. -/
theorem flatten_linesOf (chars : List Char) : (linesOf chars).flatten = chars := by
  rw [linesOf_eq_endLines, flatten_endLines, joinWith_splitOn]

theorem endLines_append (front : List (List Char)) {back : List (List Char)} (nonempty : back ≠ []) :
    endLines (front ++ back) = front.map (· ++ ['\n']) ++ endLines back := by
  induction front with
  | nil => rfl
  | cons part front inductionHypothesis =>
      have more : front ++ back ≠ [] := List.append_ne_nil_of_right_ne_nil front nonempty
      rw [List.cons_append, endLines_cons part (.inr more), inductionHypothesis, endBefore, if_neg more]
      rfl

/-! ## Fences -/

theorem isFence_iff (isLast : Bool) (part : List Char) :
    isFence isLast part = true ↔ ∃ blanks, (∀ char ∈ blanks, char = ' ' ∨ char = '\t') ∧
      (part = '-' :: '-' :: '-' :: blanks ∨
        isLast = false ∧ part = '-' :: '-' :: '-' :: (blanks ++ ['\r'])) := by
  constructor
  · intro fence
    unfold isFence at fence
    split at fence
    · rename_i rest
      have blank : ∀ char ∈ rest.takeWhile isLineBlank, char = ' ' ∨ char = '\t' := by
        intro char member
        simpa [isLineBlank] using List.mem_takeWhile_imp member
      have isRest := List.takeWhile_append_dropWhile (p := isLineBlank) (l := rest)
      refine ⟨rest.takeWhile isLineBlank, blank, ?_⟩
      rcases Bool.or_eq_true_iff.1 fence with isEmpty | isReturn
      · rw [List.isEmpty_iff.1 isEmpty, List.append_nil] at isRest
        rw [isRest]
        exact .inl rfl
      · rw [Bool.and_eq_true, beq_iff_eq] at isReturn
        rw [isReturn.2] at isRest
        rw [isRest]
        exact .inr ⟨by simpa using isReturn.1, rfl⟩
    · cases fence
  · rintro ⟨blanks, blank, rfl | ⟨rfl, rfl⟩⟩
    · have dropped : blanks.dropWhile isLineBlank = [] :=
        List.dropWhile_eq_nil_iff.2 fun char member => by simpa [isLineBlank] using blank char member
      simp [isFence, dropped]
    · have dropped : (blanks ++ ['\r']).dropWhile isLineBlank = ['\r'] := by
        rw [List.dropWhile_append_of_pos fun char member => by simpa [isLineBlank] using blank char member]
        rfl
      simp [isFence, dropped]

/-- What stands in front of the end of a fence has no break. -/
theorem break_not_mem_fence {blanks : List Char} (blank : ∀ char ∈ blanks, char = ' ' ∨ char = '\t') :
    '\n' ∉ '-' :: '-' :: '-' :: blanks := by
  intro member
  have inside : '\n' ∈ blanks := by simpa using member
  rcases blank '\n' inside with isSpace | isTab
  · exact absurd isSpace (by decide)
  · exact absurd isTab (by decide)

/-- A part of a text is a fence just if the line that it makes up is one. -/
theorem isFence_iff_isFenceLine {part : List Char} (unbroken : '\n' ∉ part) (after : List (List Char)) :
    isFence after.isEmpty part = true ↔ IsFenceLine (part ++ endBefore after) := by
  rw [isFence_iff]
  by_cases isLast : after = []
  · rw [isLast, endBefore, if_pos rfl, List.append_nil]
    constructor
    · rintro ⟨blanks, blank, rfl | ⟨ended, -⟩⟩
      · exact ⟨blanks, [], blank, .inl rfl, by rw [List.append_nil]⟩
      · cases ended
    · rintro ⟨blanks, ending, blank, rfl | rfl | rfl, rfl⟩
      · exact ⟨blanks, blank, .inl (by rw [List.append_nil])⟩
      · exact absurd (by simp) unbroken
      · exact absurd (by simp) unbroken
  · rw [endBefore, if_neg isLast, List.isEmpty_eq_false_iff.2 isLast]
    constructor
    · rintro ⟨blanks, blank, rfl | ⟨-, rfl⟩⟩
      · exact ⟨blanks, ['\n'], blank, .inr (.inl rfl), rfl⟩
      · exact ⟨blanks, ['\r', '\n'], blank, .inr (.inr rfl), by simp⟩
    · rintro ⟨blanks, ending, blank, rfl | rfl | rfl, isLine⟩
      · have member : '\n' ∈ part ++ ['\n'] := List.mem_append_right part List.mem_cons_self
        rw [isLine, List.append_nil] at member
        exact absurd member (break_not_mem_fence blank)
      · exact ⟨blanks, blank, .inl (List.append_cancel_right isLine)⟩
      · have isLine' : part ++ ['\n'] = '-' :: '-' :: '-' :: (blanks ++ ['\r']) ++ ['\n'] := by
          rw [isLine]
          simp
        exact ⟨blanks, blank, .inr ⟨rfl, List.append_cancel_right isLine'⟩⟩

/-- The fence that is found among parts is the first of their lines that is one. -/
theorem spanFence_eq_some {parts inside after : List (List Char)} (areLines : AreLines parts)
    (found : spanFence parts = some (inside, after)) :
    ∃ closing, parts = inside ++ closing :: after ∧ IsFenceLine (closing ++ endBefore after) ∧
      ∀ part ∈ inside, ¬ IsFenceLine (part ++ ['\n']) := by
  induction parts generalizing inside with
  | nil => cases found
  | cons part parts inductionHypothesis =>
      obtain ⟨unbroken, remaining⟩ := List.forall_mem_cons.1 areLines
      have fence := isFence_iff_isFenceLine unbroken parts
      rw [spanFence] at found
      split at found
      · rename_i isFence
        cases found
        exact ⟨part, rfl, fence.1 isFence, fun _ member => absurd member List.not_mem_nil⟩
      · rename_i notFence
        obtain ⟨⟨inside', after'⟩, later, same⟩ := Option.map_eq_some_iff.1 found
        cases same
        obtain ⟨closing, rfl, closes, isFirst⟩ := inductionHypothesis remaining later
        have more : inside' ++ closing :: after ≠ [] :=
          List.append_ne_nil_of_right_ne_nil inside' (List.cons_ne_nil closing after)
        rw [endBefore, if_neg more] at fence
        refine ⟨closing, rfl, closes, ?_⟩
        intro other member
        rcases List.mem_cons.1 member with rfl | member
        · exact fun isFenceLine => notFence (fence.2 isFenceLine)
        · exact isFirst other member

theorem not_isFenceLine_nil : ¬ IsFenceLine [] := by
  rintro ⟨blanks, ending, -, -, isLine⟩
  cases isLine

/-- A part that makes up a fence makes up a line. -/
theorem endLines_cons_of_fence {closing : List Char} {after : List (List Char)}
    (closes : IsFenceLine (closing ++ endBefore after)) :
    endLines (closing :: after) = (closing ++ endBefore after) :: endLines after := by
  apply endLines_cons
  by_contra missing
  obtain ⟨isEmpty, isLast⟩ := not_or.1 missing
  rw [Decidable.not_not.1 isEmpty, Decidable.not_not.1 isLast] at closes
  exact not_isFenceLine_nil closes

/-- The lines of parts: that of the first one, which may be missing, and those of the others. -/
theorem mem_endLines_cons {part line : List Char} {parts : List (List Char)}
    (member : line ∈ endLines (part :: parts)) : line = part ++ endBefore parts ∨ line ∈ endLines parts := by
  by_cases remains : part ≠ [] ∨ parts ≠ []
  · rw [endLines_cons part remains] at member
    exact List.mem_cons.1 member
  · obtain ⟨isEmpty, isLast⟩ := not_or.1 remains
    rw [Decidable.not_not.1 isEmpty, Decidable.not_not.1 isLast] at member
    exact absurd member List.not_mem_nil

theorem spanFence_eq_none {parts : List (List Char)} (areLines : AreLines parts) (missing : spanFence parts = none) :
    ∀ line ∈ endLines parts, ¬ IsFenceLine line := by
  induction parts with
  | nil => exact fun _ member => absurd member List.not_mem_nil
  | cons part parts inductionHypothesis =>
      obtain ⟨unbroken, remaining⟩ := List.forall_mem_cons.1 areLines
      rw [spanFence] at missing
      split at missing
      · cases missing
      · rename_i notFence
        intro line member
        rcases mem_endLines_cons member with rfl | member
        · exact fun isFenceLine => notFence ((isFence_iff_isFenceLine unbroken parts).2 isFenceLine)
        · exact inductionHypothesis remaining (Option.map_eq_none_iff.1 missing) line member

/-! ## What a block takes -/

theorem dropEnding_break (chars : List Char) : dropEnding (chars ++ ['\n']) = dropReturn chars := by
  rcases List.eq_nil_or_concat chars with rfl | ⟨front, char, rfl⟩
  · rfl
  · by_cases isReturn : char = '\r'
    · simp [dropEnding, dropReturn, isReturn]
    · simp [dropEnding, dropReturn, isReturn]

theorem endedLines_eq_joinWith {parts : List (List Char)} (nonempty : parts ≠ []) :
    endedLines parts = joinWith '\n' parts ++ ['\n'] := by
  induction parts with
  | nil => exact absurd rfl nonempty
  | cons part parts inductionHypothesis =>
      cases parts with
      | nil => simp [endedLines, joinWith]
      | cons next parts =>
          have others := inductionHypothesis (List.cons_ne_nil next parts)
          rw [joinWith_cons _ _ (List.cons_ne_nil next parts), List.append_assoc, List.cons_append, ← others]
          simp [endedLines]

/-- Parts with a break behind each are what stands between two fences. -/
theorem dropEnding_endedLines (parts : List (List Char)) :
    dropEnding (endedLines parts) = dropReturn (joinWith '\n' parts) := by
  by_cases isEmpty : parts = []
  · rw [isEmpty]
    rfl
  · rw [endedLines_eq_joinWith isEmpty, dropEnding_break]

/-! ## Texts cut at two fences -/

/-- A text cut at two of its lines. -/
structure Cut where
  opening : List Char
  inside : List (List Char)
  closing : List Char
  behind : List (List Char)

namespace Cut

/-- The lines of the block, its fences with them. -/
def taken (cut : Cut) : List (List Char) :=
  cut.opening :: (cut.inside ++ [cut.closing])

/-- The two lines are fences of the text, and the first one is its first line. -/
structure IsOf (cut : Cut) (lines : List (List Char)) : Prop where
  isLines : lines = cut.taken ++ cut.behind
  opens : IsFenceLine cut.opening
  isEnded : isEnded cut.opening
  closes : IsFenceLine cut.closing

/-- No fence stands between the two lines. -/
def EndsFirst (cut : Cut) : Prop :=
  ∀ line ∈ cut.inside, ¬ IsFenceLine line

/-- The two fences are neighbours, and another one follows. -/
def IsPassedOver (cut : Cut) : Prop :=
  cut.inside = [] ∧ ∃ line ∈ cut.behind, IsFenceLine line

/-- The block that the two lines enclose. -/
def block (cut : Cut) : Block :=
  ⟨dropEnding cut.inside.flatten, cut.taken.countP FrontMatter.isEnded, cut.taken.flatten.length,
    cut.behind.flatten⟩

/-- The front matter of a text is what the two lines enclose. Read, it counts the lines ended and the characters
up to the end of the closing line, and all that follows is left. -/
structure IsRead (cut : Cut) (text : String) (page : Option String) : Prop where
  isBlock : FrontMatter.parse text page = (ofBlock cut.block page).map fun matter =>
    (some matter, String.ofList cut.behind.flatten)
  sizes : ∀ matter rest, FrontMatter.parse text page = .ok (matter, rest) →
    matter.map lineCount = some (cut.taken.countP FrontMatter.isEnded) ∧
      matter.map length = some cut.taken.flatten.length

/-- The cut of a text of which these are the parts between its breaks. -/
def ofParts (opening : List Char) (inside : List (List Char)) (closing : List Char) (after : List (List Char)) :
    Cut :=
  ⟨opening ++ ['\n'], inside.map (· ++ ['\n']), closing ++ endBefore after, endLines after⟩

theorem isOf_ofParts {opening closing : List Char} {after : List (List Char)} (inside : List (List Char))
    (opens : IsFenceLine (opening ++ ['\n'])) (closes : IsFenceLine (closing ++ endBefore after)) :
    (ofParts opening inside closing after).IsOf (endLines (opening :: (inside ++ closing :: after))) := by
  refine ⟨?_, opens, by simp [FrontMatter.isEnded, ofParts], closes⟩
  have split : opening :: (inside ++ closing :: after) = (opening :: inside) ++ closing :: after := rfl
  rw [split, endLines_append _ (List.cons_ne_nil closing after), endLines_cons_of_fence closes, taken, ofParts]
  simp

/-- A text that is cut has two parts at least: a fence, and parts with a fence among their lines. -/
theorem parts_of_isOf {cut : Cut} {parts : List (List Char)} (areLines : AreLines parts)
    (isOf : cut.IsOf (endLines parts)) :
    ∃ opening first others, parts = opening :: first :: others ∧ isFence false opening = true ∧
      ∃ line ∈ endLines (first :: others), IsFenceLine line := by
  have isLines := isOf.isLines
  rw [taken, List.cons_append] at isLines
  match parts, areLines, isLines with
  | [], _, isLines => cases isLines
  | [last], _, isLines =>
      have size := congrArg List.length isLines
      have short : (endLines [last]).length ≤ 1 := by
        rw [endLines]
        split <;> simp
      simp at size
      omega
  | opening :: first :: others, areLines, isLines =>
      rw [endLines] at isLines
      obtain ⟨isOpening, areOthers⟩ := List.cons.inj isLines
      have unbroken := areLines opening List.mem_cons_self
      have opens : IsFenceLine (opening ++ endBefore (first :: others)) := isOpening ▸ isOf.opens
      have isFirst := (isFence_iff_isFenceLine unbroken (first :: others)).2 opens
      refine ⟨opening, first, others, rfl, isFirst, cut.closing, ?_, isOf.closes⟩
      rw [areOthers]
      simp

theorem countP_isEnded (parts : List (List Char)) :
    (parts.map (· ++ ['\n'])).countP FrontMatter.isEnded = parts.length := by
  rw [List.countP_eq_length.2, List.length_map]
  intro line member
  obtain ⟨part, -, rfl⟩ := List.mem_map.1 member
  simp [FrontMatter.isEnded]

theorem isEnded_closing {closing : List Char} (unbroken : '\n' ∉ closing) (after : List (List Char)) :
    FrontMatter.isEnded (closing ++ endBefore after) = !after.isEmpty := by
  by_cases isLast : after = []
  · have notEnded : closing.getLast? ≠ some '\n' := fun isBreak => unbroken (List.mem_of_getLast? isBreak)
    simpa [isLast, endBefore, FrontMatter.isEnded] using notEnded
  · simp [isLast, endBefore, FrontMatter.isEnded]

/-- The block of a cut is found in the text. -/
theorem findBlock_ofParts {chars opening closing : List Char} {inside after : List (List Char)}
    (isSplit : splitOn '\n' chars = opening :: (inside ++ closing :: after))
    (opens : IsFenceLine (opening ++ ['\n'])) (closes : IsFenceLine (closing ++ endBefore after))
    (found : blockLines (splitOn '\n' chars) = some (inside, after)) :
    findBlock chars = some (ofParts opening inside closing after).block := by
  have unbroken : '\n' ∉ closing := areLines_splitOn chars closing (by rw [isSplit]; simp)
  have isRest : joinWith '\n' after = (endLines after).flatten := (flatten_endLines after).symm
  have isText : chars = (ofParts opening inside closing after).taken.flatten ++ (endLines after).flatten := by
    rw [← flatten_linesOf chars, linesOf_eq_endLines, isSplit, (isOf_ofParts inside opens closes).isLines,
      List.flatten_append]
    rfl
  have size : chars.length - (joinWith '\n' after).length =
      (ofParts opening inside closing after).taken.flatten.length := by
    rw [isRest, isText, List.length_append, Nat.add_sub_cancel]
  have count : (ofParts opening inside closing after).taken.countP FrontMatter.isEnded =
      inside.length + 1 + (if after.isEmpty then 0 else 1) := by
    have isTaken : (ofParts opening inside closing after).taken =
        (opening :: inside).map (· ++ ['\n']) ++ [closing ++ endBefore after] := rfl
    rw [isTaken, List.countP_append, countP_isEnded, List.length_cons, List.countP_singleton,
      isEnded_closing unbroken after]
    cases after <;> rfl
  rw [findBlock, found, Option.map_some]
  dsimp only
  rw [size, ← count, isRest, ← dropEnding_endedLines]
  rfl

/-- What is found in a text is read. -/
theorem isRead_of_findBlock {cut : Cut} {text : String} (found : findBlock text.toList = some cut.block)
    (page : Option String) : cut.IsRead text page := by
  have isBlock : FrontMatter.parse text page = (ofBlock cut.block page).map fun matter =>
      (some matter, String.ofList cut.behind.flatten) := by
    unfold FrontMatter.parse
    rw [found]
    rfl
  refine ⟨isBlock, ?_⟩
  intro matter rest parsed
  rw [isBlock] at parsed
  obtain ⟨matter', read, same⟩ := map_eq_ok.1 parsed
  cases same
  obtain ⟨isCount, isLength⟩ := size_of_ofBlock read
  exact ⟨congrArg some isCount, congrArg some isLength⟩

end Cut

/-! ## Which fence ends a block -/

/-- The parts of a text with a block: the fences of the block, and no fence inside but just behind the opening
one. Where nothing is inside no fence follows. -/
theorem blockLines_eq_some {parts inside after : List (List Char)} (areLines : AreLines parts)
    (found : blockLines parts = some (inside, after)) :
    ∃ opening closing, parts = opening :: (inside ++ closing :: after) ∧
      IsFenceLine (opening ++ ['\n']) ∧ IsFenceLine (closing ++ endBefore after) ∧
      ((inside = [] ∧ ∀ line ∈ endLines after, ¬ IsFenceLine line) ∨
        ∃ first others, inside = first :: others ∧ ∀ part ∈ others, ¬ IsFenceLine (part ++ ['\n'])) := by
  unfold blockLines at found
  split at found
  · rename_i opening first others
    obtain ⟨openingUnbroken, behind⟩ := List.forall_mem_cons.1 areLines
    obtain ⟨firstUnbroken, remaining⟩ := List.forall_mem_cons.1 behind
    split at found
    · rename_i isOpening
      have opens : IsFenceLine (opening ++ ['\n']) :=
        (isFence_iff_isFenceLine openingUnbroken (first :: others)).1 isOpening
      split at found
      · rename_i inside' after' later
        cases found
        obtain ⟨closing, rfl, closes, isFirst⟩ := spanFence_eq_some remaining later
        exact ⟨opening, closing, rfl, opens, closes, .inr ⟨first, inside', rfl, isFirst⟩⟩
      · rename_i missing
        split at found
        · rename_i isClosing
          have closes := (isFence_iff_isFenceLine firstUnbroken others).1 isClosing
          cases found
          exact ⟨opening, first, rfl, opens, closes, .inl ⟨rfl, spanFence_eq_none remaining missing⟩⟩
        · cases found
    · cases found
  · cases found

/-- A text without a block has no fence on its first line, or none behind it. -/
theorem blockLines_eq_none {parts : List (List Char)} (areLines : AreLines parts)
    (missing : blockLines parts = none) : ¬ ∃ cut : Cut, cut.IsOf (endLines parts) := by
  rintro ⟨cut, isOf⟩
  obtain ⟨opening, first, others, rfl, opens, line, member, fence⟩ := Cut.parts_of_isOf areLines isOf
  obtain ⟨unbroken, remaining⟩ := List.forall_mem_cons.1 (List.forall_mem_cons.1 areLines).2
  rw [blockLines, if_pos opens] at missing
  split at missing
  · cases missing
  · rename_i notLater
    split at missing
    · cases missing
    · rename_i notFirst
      rcases mem_endLines_cons member with rfl | later
      · exact notFirst ((isFence_iff_isFenceLine unbroken others).2 fence)
      · exact spanFence_eq_none remaining notLater line later fence

theorem parse_eq_text {text : String} (missing : blockLines (splitOn '\n' text.toList) = none)
    (page : Option String) : FrontMatter.parse text page = .ok (none, text) := by
  unfold FrontMatter.parse findBlock
  rw [missing]
  rfl

/-- A block is seen just where a text opens with a fence and another one follows, and ends at the first one that
follows. Where that one stands just behind the opening fence and yet another one follows, the block ends at
the next one. All else is text. -/
theorem block_ends_at_first_fence (text : String) (page : Option String) :
    (∃ cut : Cut, cut.IsOf (linesOf text.toList) ∧ cut.EndsFirst ∧
      (¬ cut.IsPassedOver → cut.IsRead text page) ∧
      (cut.IsPassedOver → ∃ next : Cut, next.IsOf (linesOf text.toList) ∧
        next.inside.head? = some cut.closing ∧ (∀ line ∈ next.inside.tail, ¬ IsFenceLine line) ∧
        next.IsRead text page)) ∨
    ((¬ ∃ cut : Cut, cut.IsOf (linesOf text.toList)) ∧ FrontMatter.parse text page = .ok (none, text)) := by
  rw [linesOf_eq_endLines]
  have areLines := areLines_splitOn text.toList
  cases found : blockLines (splitOn '\n' text.toList) with
  | none => exact .inr ⟨blockLines_eq_none areLines found, parse_eq_text found page⟩
  | some block =>
      obtain ⟨inside, after⟩ := block
      obtain ⟨opening, closing, isSplit, opens, closes, place⟩ := blockLines_eq_some areLines found
      have isRead := Cut.isRead_of_findBlock (Cut.findBlock_ofParts isSplit opens closes found) page
      have isOf := Cut.isOf_ofParts inside opens closes
      rw [← isSplit] at isOf
      left
      rcases place with ⟨rfl, isLast⟩ | ⟨first, others, rfl, isFirst⟩
      · refine ⟨_, isOf, fun line member => absurd member List.not_mem_nil, fun _ => isRead, ?_⟩
        rintro ⟨-, line, member, fence⟩
        exact absurd fence (isLast line member)
      · by_cases fence : IsFenceLine (first ++ ['\n'])
        · have more : others ++ closing :: after ≠ [] :=
            List.append_ne_nil_of_right_ne_nil others (List.cons_ne_nil closing after)
          have isBreak : endBefore (others ++ closing :: after) = ['\n'] := if_neg more
          have firstCloses : IsFenceLine (first ++ endBefore (others ++ closing :: after)) := isBreak.symm ▸ fence
          have firstIsOf := Cut.isOf_ofParts [] opens firstCloses
          rw [List.nil_append, ← List.cons_append, ← isSplit] at firstIsOf
          have follows : closing ++ endBefore after ∈ endLines (others ++ closing :: after) := by
            rw [endLines_append others (List.cons_ne_nil closing after), endLines_cons_of_fence closes]
            simp
          refine ⟨_, firstIsOf, fun line member => absurd member List.not_mem_nil, ?_, ?_⟩
          · exact fun notPassed => absurd ⟨rfl, _, follows, closes⟩ notPassed
          · refine fun _ => ⟨_, isOf, congrArg (some <| first ++ ·) isBreak.symm, ?_, isRead⟩
            intro line member
            obtain ⟨part, isPart, rfl⟩ := List.mem_map.1 member
            exact isFirst part isPart
        · refine ⟨_, isOf, ?_, fun _ => isRead, fun passed => absurd passed.1 (List.cons_ne_nil _ _)⟩
          intro line member
          obtain ⟨part, isPart, rfl⟩ := List.mem_map.1 member
          rcases List.mem_cons.1 isPart with rfl | isPart
          · exact fence
          · exact isFirst part isPart

/-- An empty block in front of a ruled body: its closing fence is passed over, and the first lines of the body are
refused as front matter. -/
theorem empty_block_is_passed_over :
    ¬ ∀ (text : String) (page : Option String) (cut : Cut), cut.IsOf (linesOf text.toList) → cut.EndsFirst →
      cut.IsRead text page := by
  intro endsFirst
  have fence : IsFenceLine ['-', '-', '-', '\n'] := ⟨[], ['\n'], by simp, .inr (.inl rfl), rfl⟩
  let cut : Cut := ⟨['-', '-', '-', '\n'], [], ['-', '-', '-', '\n'],
    [['i', 'n', 't', 'r', 'o', '\n'], ['-', '-', '-', '\n'], ['m', 'o', 'r', 'e']]⟩
  have isOf : cut.IsOf (linesOf "---\n---\nintro\n---\nmore".toList) :=
    ⟨by decide, fence, by decide, fence⟩
  have isRead := endsFirst _ none cut isOf fun line member => absurd member List.not_mem_nil
  have refused : (FrontMatter.parse "---\n---\nintro\n---\nmore" none).map (fun _ => ()) =
      .error (faultAt none .frontMatterNotMapping) := by decide +kernel
  have read : (ofBlock cut.block none).isOk = true := by decide +kernel
  have isBlock := isRead.isBlock
  rw [map_eq_error.1 refused] at isBlock
  rw [map_eq_error.1 isBlock.symm] at read
  cases read

end FrontMatter

end Folio
