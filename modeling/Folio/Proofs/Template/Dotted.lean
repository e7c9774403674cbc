import Folio.Proofs.Template.Properties
import Folio.Proofs.Template.Words

/-!
Contract: paths of names and rows of digits.

Owns: which names behind points are read, up to a third row of digits in a row; the words of such a path; and that
a path is read as its names if no three neighbours of them are rows of digits, and refused at the first three that
are.

Does not own: indices in brackets.
-/

namespace Folio.Template

open Folio.Text Folio.Number

/-! ## Names behind points -/

/-- A property as it stands behind a point: a name or a row of digits. -/
def IsPropertyText (name : String) : Prop :=
  isName name = true ∨ IsDigitRow name.toList

instance decidableIsPropertyText (name : String) : Decidable (IsPropertyText name) :=
  inferInstanceAs (Decidable (isName name = true ∨ IsDigitRow name.toList))

/-- Three neighbours of the names are rows of digits. -/
def HasThreeDigitRows (names : List String) : Prop :=
  ∃ first second third, [first, second, third] <:+: names ∧ IsDigitRow first.toList ∧
    IsDigitRow second.toList ∧ IsDigitRow third.toList

/-- The characters of names with a point before each. -/
def dotted (names : List String) : List Char :=
  names.flatMap fun name => '.' :: name.toList

theorem dotted_nil : dotted [] = [] := rfl

theorem dotted_cons (name : String) (names : List String) :
    dotted (name :: names) = '.' :: name.toList ++ dotted names := rfl

/-- The names that are read behind a value, and those that are left. Two rows of digits in a row are one number;
a third one is not read. -/
def takeNames (behindTwo : Bool) : List String → List String × List String
  | [] => ([], [])
  | name :: names =>
      if isName name then
        (name :: (takeNames false names).1, (takeNames false names).2)
      else if behindTwo then ([], name :: names)
      else match names with
        | [] => ([name], [])
        | next :: names =>
            (name :: next :: (takeNames (!isName next) names).1, (takeNames (!isName next) names).2)

theorem takeNames_append (behindTwo : Bool) (names : List String) :
    (takeNames behindTwo names).1 ++ (takeNames behindTwo names).2 = names := by
  fun_induction takeNames behindTwo names with
  | case1 => rfl
  | case2 _ _ _ _ inductionHypothesis => simp [inductionHypothesis]
  | case3 => rfl
  | case4 => rfl
  | case5 _ _ _ _ _ _ inductionHypothesis => simp [inductionHypothesis]

theorem noDigit_of_isName {name : String} (named : isName name = true) (rest : List Char) :
    ∀ char ∈ (name.toList ++ rest).head?, isDigit char = false := by
  unfold isName at named
  split at named
  · cases named
  · rename_i char more isText
    have starts : startsName char = true := (Bool.and_eq_true_iff.1 named).1
    simpa [isText] using (startsName_facts starts).2.2.1

theorem not_isDigitRow_of_isName {name : String} (named : isName name = true) : ¬ IsDigitRow name.toList := by
  intro isRow
  obtain ⟨digit, isHead, isDigit⟩ := isRow.starts
  have noDigit := noDigit_of_isName named [] digit (by rwa [List.append_nil])
  rw [isDigit] at noDigit
  cases noDigit

theorem mem_of_takeNames_left {behindTwo : Bool} {names back : List String} {third name : String}
    (isLeft : (takeNames behindTwo names).2 = third :: back) (member : name ∈ back) : name ∈ names := by
  rw [← takeNames_append behindTwo names, isLeft]
  simp [member]

theorem HasThreeDigitRows.three_le_length {names : List String} (hasThree : HasThreeDigitRows names) :
    3 ≤ names.length := by
  obtain ⟨first, second, third, isInfix, -⟩ := hasThree
  exact isInfix.length_le

theorem hasThreeDigitRows_cons {name : String} {names : List String} :
    HasThreeDigitRows (name :: names) ↔
      (∃ second third, [second, third] <+: names ∧ IsDigitRow name.toList ∧ IsDigitRow second.toList ∧
        IsDigitRow third.toList) ∨ HasThreeDigitRows names := by
  unfold HasThreeDigitRows
  constructor
  · rintro ⟨first, second, third, isInfix, rows⟩
    rcases List.infix_cons_iff.1 isInfix with isPrefix | isInfix
    · obtain ⟨rfl, behindFirst⟩ := List.cons_prefix_cons.1 isPrefix
      exact .inl ⟨second, third, behindFirst, rows⟩
    · exact .inr ⟨first, second, third, isInfix, rows⟩
  · rintro (⟨second, third, isPrefix, rows⟩ | ⟨first, second, third, isInfix, rows⟩)
    · exact ⟨name, second, third, (List.cons_prefix_cons.2 ⟨rfl, isPrefix⟩).isInfix, rows⟩
    · exact ⟨first, second, third, List.infix_cons isInfix, rows⟩

/-- Behind two names at most, a name that is no row of digits parts the rows of digits before it from those behind
it. -/
theorem HasThreeDigitRows.behind_name (before : List String) {names : List String} {name : String}
    (named : isName name = true) (few : before.length ≤ 2) (hasThree : HasThreeDigitRows (before ++ name :: names)) :
    HasThreeDigitRows names := by
  have noRow := not_isDigitRow_of_isName named
  match before, few with
  | [], _ =>
      rcases hasThreeDigitRows_cons.1 hasThree with ⟨_, _, -, isRow, -⟩ | hasThree
      · exact absurd isRow noRow
      · exact hasThree
  | [first], _ =>
      rcases hasThreeDigitRows_cons.1 hasThree with ⟨_, _, isPrefix, -, isRow, -⟩ | hasThree
      · rw [(List.cons_prefix_cons.1 isPrefix).1] at isRow
        exact absurd isRow noRow
      · exact hasThree.behind_name [] named (by simp)
  | [first, second], _ =>
      rcases hasThreeDigitRows_cons.1 hasThree with ⟨_, _, isPrefix, -, -, isRow⟩ | hasThree
      · rw [(List.cons_prefix_cons.1 (List.cons_prefix_cons.1 isPrefix).2).1] at isRow
        exact absurd isRow noRow
      · exact hasThree.behind_name [second] named (by simp)

section Taken

variable {behindTwo : Bool} {names : List String}

/-- Of the names that are read no three neighbours are rows of digits. -/
theorem takeNames_few (before : List String) (few : before.length ≤ if behindTwo then 2 else 0) :
    ¬ HasThreeDigitRows (before ++ (takeNames behindTwo names).1) := by
  have atMostTwo : before.length ≤ 2 := by
    split at few <;> omega
  fun_induction takeNames behindTwo names generalizing before with
  | case1 =>
      intro hasThree
      have enough := hasThree.three_le_length
      rw [List.append_nil] at enough
      omega
  | case2 _ _ _ named inductionHypothesis =>
      intro hasThree
      exact inductionHypothesis [] (by simp) (by simp) (hasThree.behind_name before named atMostTwo)
  | case3 =>
      intro hasThree
      have enough := hasThree.three_le_length
      rw [List.append_nil] at enough
      omega
  | case4 _ _ _ notTwo =>
      intro hasThree
      rw [if_neg notTwo] at few
      have enough := hasThree.three_le_length
      simp only [List.length_append, List.length_singleton] at enough
      omega
  | case5 behindTwo name _ notTwo next names inductionHypothesis =>
      rw [if_neg notTwo, Nat.le_zero, List.length_eq_zero_iff] at few
      subst few
      by_cases named : isName next = true
      · intro hasThree
        rw [named] at inductionHypothesis hasThree
        exact inductionHypothesis [] (by simp) (by simp) (hasThree.behind_name [name] named (by simp))
      · exact inductionHypothesis [name, next] (by simp [named]) (by simp)

/-- Where names are left, the first of them is a row of digits, and two others stand right before it. -/
theorem takeNames_left (properties : ∀ name ∈ names, IsPropertyText name) {third : String} {back : List String}
    (isLeft : (takeNames behindTwo names).2 = third :: back) :
    IsDigitRow third.toList ∧
      (behindTwo = true ∧ (takeNames behindTwo names).1 = [] ∨
        ∃ front first second, (takeNames behindTwo names).1 = front ++ [first, second] ∧
          IsDigitRow first.toList ∧ IsDigitRow second.toList) := by
  fun_induction takeNames behindTwo names with
  | case1 => cases isLeft
  | case2 behindTwo name names named inductionHypothesis =>
      obtain ⟨isRow, noTwo | ⟨front, first, second, isTaken, rows⟩⟩ :=
        inductionHypothesis (List.forall_mem_cons.1 properties).2 isLeft
      · cases noTwo.1
      · exact ⟨isRow, .inr ⟨name :: front, first, second, congrArg (name :: ·) isTaken, rows⟩⟩
  | case3 name names notName =>
      cases isLeft
      exact ⟨(properties third List.mem_cons_self).resolve_left notName, .inl ⟨rfl, rfl⟩⟩
  | case4 => cases isLeft
  | case5 behindTwo name notName notTwo next names inductionHypothesis =>
      obtain ⟨isProperty, isNext, areProperties⟩ := by
        simpa only [List.forall_mem_cons] using properties
      obtain ⟨isRow, ⟨notNext, isTaken⟩ | ⟨front, first, second, isTaken, rows⟩⟩ :=
        inductionHypothesis areProperties isLeft
      · refine ⟨isRow, .inr ⟨[], name, next, ?_, isProperty.resolve_left notName, isNext.resolve_left ?_⟩⟩
        · rw [isTaken]
          rfl
        · simpa using notNext
      · exact ⟨isRow, .inr ⟨name :: next :: front, first, second, congrArg (name :: next :: ·) isTaken, rows⟩⟩

/-- Without three rows of digits in a row all names are read. -/
theorem takeNames_all (properties : ∀ name ∈ names, IsPropertyText name) (noThree : ¬ HasThreeDigitRows names) :
    takeNames false names = (names, []) := by
  have parts := takeNames_append false names
  cases isLeft : (takeNames false names).2 with
  | nil =>
      rw [isLeft, List.append_nil] at parts
      exact Prod.ext parts isLeft
  | cons third back =>
      obtain ⟨isThird, noTwo | ⟨front, first, second, isTaken, isFirst, isSecond⟩⟩ :=
        takeNames_left properties isLeft
      · cases noTwo.1
      · exfalso
        apply noThree
        refine ⟨first, second, third, ⟨front, back, ?_⟩, isFirst, isSecond, isThird⟩
        rw [← parts, isTaken, isLeft]
        simp

/-- With three rows of digits in a row the names are read up to the third of the first three. -/
theorem takeNames_third (properties : ∀ name ∈ names, IsPropertyText name) (hasThree : HasThreeDigitRows names) :
    ∃ front first second third back, names = front ++ first :: second :: third :: back ∧
      IsDigitRow first.toList ∧ IsDigitRow second.toList ∧ IsDigitRow third.toList ∧
        ¬ HasThreeDigitRows (front ++ [first, second]) ∧
          takeNames false names = (front ++ [first, second], third :: back) := by
  have parts := takeNames_append false names
  have few : ¬ HasThreeDigitRows ([] ++ (takeNames false names).1) := takeNames_few [] (by simp)
  rw [List.nil_append] at few
  cases isLeft : (takeNames false names).2 with
  | nil =>
      rw [isLeft, List.append_nil] at parts
      rw [parts] at few
      exact absurd hasThree few
  | cons third back =>
      obtain ⟨isThird, noTwo | ⟨front, first, second, isTaken, isFirst, isSecond⟩⟩ :=
        takeNames_left properties isLeft
      · cases noTwo.1
      · rw [isTaken] at few
        refine ⟨front, first, second, third, back, ?_, isFirst, isSecond, isThird, few, Prod.ext isTaken isLeft⟩
        rw [← parts, isTaken, isLeft]
        simp

end Taken

/-! ## The words of a path -/

theorem dotted_head (names : List String) : ∀ char ∈ (dotted names).head?, char = '.' := by
  cases names with
  | nil => simp [dotted]
  | cons name names => simp [dotted]

theorem dottedPath_toList (head : String) (names : List String) :
    (dottedPath head (names.map .property)).toList = head.toList ++ dotted names := by
  rw [dottedPath, String.toList_intercalate]
  induction names generalizing head with
  | nil => simp [dotted]
  | cons name names inductionHypothesis =>
      have behindHead := inductionHypothesis name
      simp only [List.map_cons, List.intercalate_cons_cons, Segment.shown] at behindHead ⊢
      rw [behindHead]
      simp [dotted]

section Pieces

variable {place : Position} {rest : List Char}

/-- A point and a name read a property, whatever stands before them. -/
theorem scans_name (previous : Option TokenKind) {name : String} (named : isName name = true)
    (ends : ∀ char ∈ rest.head?, char = '.') :
    Scans previous place ('.' :: name.toList)
      [⟨.dot, ".", place⟩, ⟨.identifier, name, place.after '.'⟩] (some .identifier) rest := by
  have stops : ∀ char ∈ rest.head?, continuesName char = false := by
    intro char isFirst
    rw [ends char isFirst]
    decide
  have point : Scans previous place ['.'] [⟨.dot, ".", place⟩] (some .dot) (name.toList ++ rest) :=
    words_point previous place (.inr (noDigit_of_isName named rest))
  exact point.append (words_name (some .dot) (place.after '.') named stops)

theorem endsNumber_of_head (ends : ∀ char ∈ rest.head?, char = '.') : EndsNumber rest := by
  intro char isFirst
  rw [ends char isFirst]
  decide

/-- Behind a value a point and a row of digits read a property, if no other row of digits follows. -/
theorem scans_row {row : String} (isRow : IsDigitRow row.toList) (ends : ∀ char ∈ rest.head?, char = '.')
    (noFraction : fractionSpan rest = none) :
    Scans (some .identifier) place ('.' :: row.toList)
      [⟨.dot, ".", place⟩, ⟨.number, row, place.after '.'⟩] (some .number) rest := by
  have point : Scans (some .identifier) place ['.'] [⟨.dot, ".", place⟩] (some .dot) (row.toList ++ rest) :=
    words_point (some .identifier) place (.inl rfl)
  have number := words_magnitude (some .dot) (place.after '.') isRow.starts
    (magnitudeSpan_append isRow (endsNumber_of_head ends) noFraction)
  rw [String.ofList_toList] at number
  exact point.append number

/-- Behind a value a point and two rows of digits read two properties, which are one number. -/
theorem scans_rows {first second : String} (isFirst : IsDigitRow first.toList)
    (isSecond : IsDigitRow second.toList) (ends : ∀ char ∈ rest.head?, char = '.') :
    Scans (some .identifier) place ('.' :: (first.toList ++ '.' :: second.toList))
      [⟨.dot, ".", place⟩, ⟨.number, String.ofList (first.toList ++ '.' :: second.toList), place.after '.'⟩]
      (some .number) rest := by
  have point : Scans (some .identifier) place ['.'] [⟨.dot, ".", place⟩] (some .dot)
      (first.toList ++ '.' :: second.toList ++ rest) :=
    words_point (some .identifier) place (.inl rfl)
  have found := magnitudeSpan_fraction isFirst isSecond (endsNumber_of_head ends)
  rw [← List.cons_append, ← List.append_assoc] at found
  have starts : ∃ digit ∈ (first.toList ++ '.' :: second.toList).head?, isDigit digit = true := by
    obtain ⟨digit, isHead, isDigit⟩ := isFirst.starts
    exact ⟨digit, by rw [List.head?_append, isHead]; rfl, isDigit⟩
  exact point.append (words_magnitude (some .dot) (place.after '.') starts found)

/-- Behind a number a point and a row of digits are another number. -/
theorem scans_fraction {row : String} (isRow : IsDigitRow row.toList) (ends : ∀ char ∈ rest.head?, char = '.') :
    Scans (some .number) place ('.' :: row.toList)
      [⟨.number, String.ofList ('.' :: row.toList), place⟩] (some .number) rest :=
  words_number (some .number) place (by decide) (by decide) (fun _ => rfl)
    (numberSpan_fraction isRow (endsNumber_of_head ends))

end Pieces

theorem numberProperties?_row {row : String} (isRow : IsDigitRow row.toList) :
    numberProperties? row = some [.property row] := by
  have noMinus : ¬ (row.toList.head? == some '-') = true := by
    obtain ⟨digit, isHead, isDigit⟩ := isRow.starts
    rw [isHead]
    simpa using (ne_of_isDigit isDigit).1
  rw [numberProperties?, if_neg noMinus, splitText, splitOn_of_notMem (point_notMem_of_digits isRow.digits)]
  simp

theorem numberProperties?_rows {first second : String} (isFirst : IsDigitRow first.toList)
    (isSecond : IsDigitRow second.toList) :
    numberProperties? (String.ofList (first.toList ++ '.' :: second.toList)) =
      some [.property first, .property second] := by
  have noMinus : ¬ ((first.toList ++ '.' :: second.toList).head? == some '-') = true := by
    obtain ⟨digit, isHead, isDigit⟩ := isFirst.starts
    rw [List.head?_append, isHead]
    simpa using (ne_of_isDigit isDigit).1
  rw [numberProperties?, String.toList_ofList, if_neg noMinus, splitText, String.toList_ofList,
    splitOn_append_separator (point_notMem_of_digits isFirst.digits),
    splitOn_of_notMem (point_notMem_of_digits isSecond.digits)]
  simp

/-- The kind of the word before names that are read: behind two rows of digits it is a number. -/
def kindBefore (behindTwo : Bool) : TokenKind :=
  if behindTwo then .number else .identifier

theorem dotted_takeNames (behindTwo : Bool) (names : List String) :
    dotted (takeNames behindTwo names).1 ++ dotted (takeNames behindTwo names).2 = dotted names := by
  conv => rhs; rw [← takeNames_append behindTwo names]
  simp [dotted]

/-- The names that are read are words that spell their properties; if any are left, a number stands before them. -/
theorem scans_takeNames {behindTwo : Bool} {names : List String}
    (properties : ∀ name ∈ names, IsPropertyText name) (place : Position) :
    ∃ row last, Scans (some (kindBefore behindTwo)) place (dotted (takeNames behindTwo names).1) row (some last)
        (dotted (takeNames behindTwo names).2) ∧
      Spells row (.segments ((takeNames behindTwo names).1.map .property)) ∧
        ((takeNames behindTwo names).2 ≠ [] → last = .number) := by
  fun_induction takeNames behindTwo names generalizing place with
  | case1 behindTwo => exact ⟨[], kindBefore behindTwo, .nothing, .noSegments, by simp⟩
  | case2 behindTwo name names named inductionHypothesis =>
      obtain ⟨row, last, scans, spelled, left⟩ :=
        inductionHypothesis (List.forall_mem_cons.1 properties).2 (place.past ('.' :: name.toList))
      have ends := dotted_head names
      rw [← dotted_takeNames false names] at ends
      refine ⟨_, last, (scans_name _ named ends).append scans, .property rfl rfl spelled, left⟩
  | case3 name names notName => exact ⟨[], .number, .nothing, .noSegments, fun _ => rfl⟩
  | case4 behindTwo name notName notTwo =>
      have isRow : IsDigitRow name.toList := (properties name List.mem_cons_self).resolve_left notName
      have spelled : Spells [⟨.dot, ".", place⟩, ⟨.number, name, place.after '.'⟩]
          (.segments ([.property name] ++ [])) :=
        .numberProperties rfl rfl (numberProperties?_row isRow) .noSegments
      have scans : Scans (some .identifier) place ('.' :: name.toList)
          [⟨.dot, ".", place⟩, ⟨.number, name, place.after '.'⟩] (some .number) [] :=
        scans_row isRow (by simp) rfl
      rw [eq_false_of_ne_true notTwo]
      exact ⟨_, .number, scans.append .nothing, spelled, by simp⟩
  | case5 behindTwo name notName notTwo next names inductionHypothesis =>
      obtain ⟨isProperty, isNext, areProperties⟩ := by
        simpa only [List.forall_mem_cons] using properties
      have isRow : IsDigitRow name.toList := isProperty.resolve_left notName
      have ends := dotted_head names
      rw [← dotted_takeNames (!isName next) names] at ends
      rw [eq_false_of_ne_true notTwo]
      by_cases named : isName next = true
      · rw [named, Bool.not_true] at inductionHypothesis ends ⊢
        obtain ⟨row, last, scans, spelled, left⟩ :=
          inductionHypothesis areProperties ((place.past ('.' :: name.toList)).past ('.' :: next.toList))
        have scansNext := (scans_name (some .number) named ends).append scans
        have noDigit := noDigit_of_isName named
          (dotted (takeNames false names).1 ++ dotted (takeNames false names).2)
        rw [← List.append_assoc] at noDigit
        have scansRow := (scans_row isRow (by simp) (fractionSpan_point noDigit)).append scansNext
        generalize place.past ('.' :: name.toList) = behind at scansRow
        have spelledNext : Spells (⟨.dot, ".", behind⟩ :: ⟨.identifier, next, behind.after '.'⟩ :: row)
            (.segments (.property next :: (takeNames false names).1.map .property)) :=
          .property rfl rfl spelled
        exact ⟨_, last, scansRow, .numberProperties rfl rfl (numberProperties?_row isRow) spelledNext, left⟩
      · have isNextRow : IsDigitRow next.toList := isNext.resolve_left named
        rw [eq_false_of_ne_true named, Bool.not_false] at inductionHypothesis ends ⊢
        obtain ⟨row, last, scans, spelled, left⟩ :=
          inductionHypothesis areProperties (place.past ('.' :: (name.toList ++ '.' :: next.toList)))
        have scansRows := (scans_rows isRow isNextRow ends).append scans
        rw [List.cons_append, List.append_assoc, List.cons_append] at scansRows
        have named := numberProperties?_rows isRow isNextRow
        generalize String.ofList (name.toList ++ '.' :: next.toList) = numeral at scansRows named
        have spelledRows : Spells (⟨.dot, ".", place⟩ :: ⟨.number, numeral, place.after '.'⟩ :: row)
            (.segments ([.property name, .property next] ++ (takeNames true names).1.map .property)) :=
          .numberProperties rfl rfl named spelled
        exact ⟨_, last, scansRows, spelledRows, left⟩

/-- The first of the names that are left is a number with a point in front, behind the words of the others. -/
theorem scans_third {behindTwo : Bool} {names : List String} (properties : ∀ name ∈ names, IsPropertyText name)
    (place : Position) {third : String} {back : List String} (isLeft : (takeNames behindTwo names).2 = third :: back) :
    ∃ row, Scans (some (kindBefore behindTwo)) place (dotted (takeNames behindTwo names).1 ++ '.' :: third.toList)
        (row ++ [⟨.number, "." ++ third, place.past (dotted (takeNames behindTwo names).1)⟩]) (some .number)
        (dotted back) ∧
      Spells row (.segments ((takeNames behindTwo names).1.map .property)) := by
  obtain ⟨row, last, scans, spelled, left⟩ := scans_takeNames properties place
  rw [isLeft] at scans left
  rw [left (List.cons_ne_nil third back)] at scans
  have isNumber : Scans (some .number) (place.past (dotted (takeNames behindTwo names).1)) ('.' :: third.toList)
      [⟨.number, String.ofList ('.' :: third.toList), place.past (dotted (takeNames behindTwo names).1)⟩]
      (some .number) (dotted back) :=
    scans_fraction (takeNames_left properties isLeft).1 (dotted_head back)
  have isText : String.ofList ('.' :: third.toList) = "." ++ third := by
    rw [← String.toList_inj]
    simp
  rw [isText] at isNumber
  exact ⟨row, scans.append isNumber, spelled⟩

/-- Names behind points always have words. -/
theorem words_dotted {names : List String} (properties : ∀ name ∈ names, IsPropertyText name) (behindTwo : Bool)
    (place : Position) : ∃ tokens, words (some (kindBefore behindTwo)) place (dotted names) = .ok tokens := by
  cases isLeft : (takeNames behindTwo names).2 with
  | nil =>
      obtain ⟨row, last, scans, -, -⟩ := scans_takeNames properties place
      rw [isLeft] at scans
      rw [← dotted_takeNames behindTwo, isLeft, dotted_nil, List.append_nil]
      exact ⟨_, scans.finish⟩
  | cons third back =>
      have parts := takeNames_append behindTwo names
      rw [isLeft] at parts
      have shorter : back.length < names.length := by
        rw [← parts, List.length_append, List.length_cons]
        omega
      have backProperties : ∀ name ∈ back, IsPropertyText name :=
        fun name member => properties name (mem_of_takeNames_left isLeft member)
      obtain ⟨row, scans, -⟩ := scans_third properties place isLeft
      obtain ⟨tokens, found⟩ := words_dotted backProperties true
        (place.past (dotted (takeNames behindTwo names).1 ++ '.' :: third.toList))
      rw [Scans, show words (some .number) _ _ = .ok tokens from found] at scans
      rw [← dotted_takeNames behindTwo, isLeft, dotted_cons, ← List.append_assoc, scans]
      exact ⟨_, rfl⟩
termination_by names.length

/-- The head of a path is a name. -/
theorem scans_head {head : String} (isHead : isName head = true) {rest : List Char}
    (ends : ∀ char ∈ rest.head?, char = '.') :
    Scans none .start head.toList [⟨.identifier, head, .start⟩] (some (kindBefore false)) rest := by
  refine words_name none .start isHead ?_
  intro char isFirst
  rw [ends char isFirst]
  decide

theorem parse_dottedPath {head : String} {names : List String} (isHead : isName head = true)
    (noKeyword : keyword? head = none) (properties : ∀ name ∈ names, IsPropertyText name)
    (isAll : takeNames false names = (names, [])) :
    parseExpressionText (dottedPath head (names.map .property)) = .ok ⟨.path head (names.map .property), []⟩ := by
  obtain ⟨row, last, scans, spelled, -⟩ := scans_takeNames properties (Position.start.past head.toList)
  rw [isAll] at scans spelled
  have found := ((scans_head isHead (by simpa [dotted_nil] using dotted_head names)).append scans).finish
  rw [← dottedPath_toList] at found
  have path : Spells (⟨.identifier, head, .start⟩ :: row) (.primary (.path head (names.map .property))) :=
    .path rfl noKeyword spelled
  exact parseExpressionText_of_spells found path.whole

theorem parse_dottedPath_third {head : String} {names taken back : List String} {third : String}
    (isHead : isName head = true) (noKeyword : keyword? head = none)
    (properties : ∀ name ∈ names, IsPropertyText name)
    (isLeft : takeNames false names = (taken, third :: back)) :
    parseExpressionText (dottedPath head (names.map .property)) =
      .error (.malformed (.of (.unexpectedToken ("." ++ third))
        (Position.start.past (dottedPath head (taken.map .property)).toList))) := by
  have parts := takeNames_append false names
  rw [isLeft] at parts
  have backProperties : ∀ name ∈ back, IsPropertyText name :=
    fun name member => properties name (mem_of_takeNames_left (congrArg Prod.snd isLeft) member)
  have isRest : dotted taken ++ '.' :: third.toList ++ dotted back = dotted names := by
    rw [← parts]
    simp [dotted]
  obtain ⟨row, scans, spelled⟩ :=
    scans_third properties (Position.start.past head.toList) (congrArg Prod.snd isLeft)
  rw [isLeft] at scans spelled
  have whole := (scans_head isHead (isRest ▸ dotted_head names)).append scans
  obtain ⟨tokens, tokensFound⟩ := words_dotted backProperties true
    (Position.start.past (head.toList ++ (dotted taken ++ '.' :: third.toList)))
  obtain ⟨others, finish, rfl, -, -⟩ := (lexes_of_words tokensFound).ends
  rw [Scans, show words (some .number) _ _ = .ok (others ++ [finish]) from tokensFound, List.append_assoc, isRest,
    ← dottedPath_toList] at whole
  have path : Spells (⟨.identifier, head, .start⟩ :: row) (.primary (.path head (taken.map .property))) :=
    .path rfl noKeyword spelled
  have refused := @Pipeline.ofTokens_unexpected _ others
    ⟨.number, "." ++ third, (Position.start.past head.toList).past (dotted taken)⟩ finish _ path.whole
    (by simp) (by rfl)
  rw [parseExpressionText_of_tokens whole, dottedPath_toList, Position.past_append, ← refused]
  simp

/-- A path of names and rows of digits is read as the path of its names if no three neighbours of them are rows of
digits. Otherwise it is refused at the third row of the first three: the two before it are one number, and the
third is another number, with its point in front, that continues nothing. -/
theorem dotted_path_is_read {head : String} {names : List String} (isHead : isName head = true)
    (noKeyword : keyword? head = none) (properties : ∀ name ∈ names, IsPropertyText name) :
    (¬ HasThreeDigitRows names →
        parseExpressionText (dottedPath head (names.map .property)) = .ok ⟨.path head (names.map .property), []⟩) ∧
      (HasThreeDigitRows names →
        ∃ front first second third back, names = front ++ first :: second :: third :: back ∧
          IsDigitRow first.toList ∧ IsDigitRow second.toList ∧ IsDigitRow third.toList ∧
            ¬ HasThreeDigitRows (front ++ [first, second]) ∧
              parseExpressionText (dottedPath head (names.map .property)) =
                .error (.malformed (.of (.unexpectedToken ("." ++ third))
                  (Position.start.past
                    (dottedPath head ((front ++ [first, second]).map .property)).toList)))) := by
  constructor
  · intro noThree
    exact parse_dottedPath isHead noKeyword properties (takeNames_all properties noThree)
  · intro hasThree
    obtain ⟨front, first, second, third, back, isNames, isFirst, isSecond, isThird, few, isLeft⟩ :=
      takeNames_third properties hasThree
    exact ⟨front, first, second, third, back, isNames, isFirst, isSecond, isThird, few,
      parse_dottedPath_third isHead noKeyword properties isLeft⟩

theorem dotted_path_is_read_at_rows :
    let names := ["0", "1", "title", "2", "x"]
    (∀ name ∈ names, IsPropertyText name) ∧ ¬ HasThreeDigitRows names ∧
      parseExpressionText "rows.0.1.title.2.x" = .ok ⟨.path "rows" (names.map .property), []⟩ := by
  intro names
  have properties : ∀ name ∈ names, IsPropertyText name := by decide +kernel
  have noThree : ¬ HasThreeDigitRows names := by
    have few : ¬ HasThreeDigitRows ([] ++ (takeNames false names).1) := takeNames_few [] (by simp)
    rwa [show [] ++ (takeNames false names).1 = names by decide +kernel] at few
  have read := @dotted_path_is_read "rows" names (by decide) (by decide) properties
  exact ⟨properties, noThree, read.1 noThree⟩

/-- Three rows of digits: the third one is a number with a point in front, and the path is refused. -/
theorem dotted_path_is_refused_at_digits :
    let names := ["1", "2", "3"]
    isName "a" = true ∧ keyword? "a" = none ∧ (∀ name ∈ names, IsPropertyText name) ∧
      dottedPath "a" (names.map .property) = "a.1.2.3" ∧
        parseExpressionText "a.1.2.3" = .error (.malformed (.of (.unexpectedToken ".3") ⟨5, 1, 6⟩)) := by
  have found : expressionTokens .start "a.1.2.3" =
      .ok [⟨.identifier, "a", ⟨0, 1, 1⟩⟩, ⟨.dot, ".", ⟨1, 1, 2⟩⟩, ⟨.number, "1.2", ⟨2, 1, 3⟩⟩,
        ⟨.number, ".3", ⟨5, 1, 6⟩⟩, ⟨.finish, "", ⟨7, 1, 8⟩⟩] := by
    decide +kernel
  refine ⟨by decide, by decide, by decide +kernel, by decide, ?_⟩
  rw [parseExpressionText_of_tokens found]
  rfl

end Folio.Template
