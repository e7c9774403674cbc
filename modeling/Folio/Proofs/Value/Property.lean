import Folio.Proofs.Number.Numeral
import Folio.Proofs.Outcome
import Folio.Value.Property
import Mathlib.Data.List.TakeWhile

/-!
Contract: what one segment of a path finds.

Owns: which values have a plain text, and why the others have none; which texts name a position of a sequence, and
which only look so; the item at a position; and the law that a segment finds a property or its absence in every value,
with the exact exceptions.

Does not own: paths of several segments.
-/

namespace Folio

open Folio.Text Folio.Number

/-! ## Values with a text -/

theorem isOk_bind_pure {Error α β : Type} (first : Except Error α) (change : α → β) :
    (do return change (← first) : Except Error β).isOk = first.isOk := by
  cases first with
  | error error => rfl
  | ok value => rfl

theorem isOk_bind {Error α β : Type} (first : Except Error α) {next : α → Except Error β} {flag : Bool}
    (same : ∀ value, (next value).isOk = flag) : (first >>= next).isOk = (first.isOk && flag) := by
  cases first with
  | error error => rfl
  | ok value => exact same value

mutual

/-- No whole number in a value has more digits than can be written. -/
def Value.isWritable : Value → Bool
  | .int number => (naturalDigits number.natAbs).length ≤ digitLimit
  | .list items => areWritable items
  | .tuple items => areWritable items
  | .map entries => areWritableEntries entries
  | _ => true

def Value.areWritable : List Value → Bool
  | [] => true
  | item :: items => item.isWritable && areWritable items

def Value.areWritableEntries : List (Value × Value) → Bool
  | [] => true
  | (key, value) :: entries => key.isWritable && (value.isWritable && areWritableEntries entries)

end

theorem isOk_writeInt (number : Int) : (writeInt number).isOk = (Value.int number).isWritable := by
  unfold writeInt writeWhole
  by_cases long : digitLimit < (naturalDigits number.natAbs).length
  · simp [long, Value.isWritable, Except.mapError, Except.isOk, Except.toBool]
  · simp [long, Value.isWritable, Except.mapError, Except.isOk, Except.toBool, Nat.not_lt.1 long]

mutual

theorem Value.isOk_inspected : ∀ value : Value, value.inspected.isOk = value.isWritable
  | .int number => isOk_writeInt number
  | .list items => by
      rw [Value.inspected, isOk_bind_pure, Value.isOk_inspectedItems items, Value.isWritable]
  | .tuple items => by
      have all := Value.isOk_inspectedItems items
      rw [Value.inspected, Value.isWritable]
      cases read : Value.inspectedItems items with
      | error cause =>
          rw [read] at all
          exact all
      | ok texts =>
          -- A tuple of one item is written with a comma behind it.
          rw [read] at all
          rcases texts with _ | ⟨only, _ | ⟨next, others⟩⟩
          all_goals exact all
  | .map entries => by
      rw [Value.inspected, isOk_bind_pure, Value.isOk_inspectedEntries entries, Value.isWritable]
  | .null | .bool _ | .float _ | .str _ | .object _ | .date _ | .moment _ | .duration _ | .method _ => rfl

theorem Value.isOk_inspectedItems :
    ∀ items : List Value, (Value.inspectedItems items).isOk = Value.areWritable items
  | [] => rfl
  | item :: items => by
      have behind : ∀ first : String, (do return first :: (← Value.inspectedItems items)).isOk =
          Value.areWritable items := by
        intro first
        rw [isOk_bind_pure, Value.isOk_inspectedItems items]
      rw [Value.inspectedItems, isOk_bind item.inspected behind, Value.isOk_inspected item, Value.areWritable]

theorem Value.isOk_inspectedEntries : ∀ entries : List (Value × Value),
    (Value.inspectedEntries entries).isOk = Value.areWritableEntries entries
  | [] => rfl
  | (key, value) :: entries => by
      have behindValue : ∀ name text : String,
          (do return (name ++ ": " ++ text) :: (← Value.inspectedEntries entries)).isOk =
            Value.areWritableEntries entries := by
        intro name text
        rw [isOk_bind_pure, Value.isOk_inspectedEntries entries]
      have behindKey : ∀ name : String,
          (do
            let text ← value.inspected
            return (name ++ ": " ++ text) :: (← Value.inspectedEntries entries)).isOk =
              (value.isWritable && Value.areWritableEntries entries) := by
        intro name
        rw [isOk_bind value.inspected (behindValue name), Value.isOk_inspected value]
      rw [Value.inspectedEntries, isOk_bind key.inspected behindKey, Value.isOk_inspected key,
        Value.areWritableEntries]

end

/-- A value has a plain text if all whole numbers in it can be written. -/
theorem Value.isOk_spelled (value : Value) : value.spelled.isOk = value.isWritable := by
  cases value with
  | str | date | moment | duration => rfl
  | _ => exact Value.isOk_inspected _

theorem exists_spelled {value : Value} (writable : value.isWritable = true) :
    ∃ text, value.spelled = .ok text := by
  apply exists_of_isOk
  rw [value.isOk_spelled, writable]

theorem not_spelled {value : Value} (unwritable : value.isWritable = false) (text : String) :
    value.spelled ≠ .ok text := by
  intro spelled
  have isOk := value.isOk_spelled
  rw [spelled, unwritable] at isOk
  cases isOk

theorem writeInt_eq_error {number : Int} {cause : Mishap} (failed : writeInt number = .error cause) :
    cause = .numeral .tooLongToWrite := by
  unfold writeInt writeWhole at failed
  obtain ⟨error, failed, rfl⟩ := mapError_eq_error.1 failed
  split at failed
  · cases failed
    rfl
  · cases failed

mutual

theorem Value.inspected_eq_error {cause : Mishap} :
    ∀ value : Value, value.inspected = .error cause → cause = .numeral .tooLongToWrite
  | .int _, failed => writeInt_eq_error failed
  | .list items, failed => by
      rw [Value.inspected] at failed
      rcases bind_eq_error.1 failed with failed | ⟨_, -, failed⟩
      · exact Value.inspectedItems_eq_error items failed
      · cases failed
  | .tuple items, failed => by
      rw [Value.inspected] at failed
      rcases bind_eq_error.1 failed with failed | ⟨texts, -, failed⟩
      · exact Value.inspectedItems_eq_error items failed
      · rcases texts with _ | ⟨only, _ | ⟨next, others⟩⟩
        all_goals cases failed
  | .map entries, failed => by
      rw [Value.inspected] at failed
      rcases bind_eq_error.1 failed with failed | ⟨_, -, failed⟩
      · exact Value.inspectedEntries_eq_error entries failed
      · cases failed

theorem Value.inspectedItems_eq_error {cause : Mishap} :
    ∀ items : List Value, Value.inspectedItems items = .error cause → cause = .numeral .tooLongToWrite
  | item :: items, failed => by
      rw [Value.inspectedItems] at failed
      rcases bind_eq_error.1 failed with failed | ⟨_, -, failed⟩
      · exact Value.inspected_eq_error item failed
      · rcases bind_eq_error.1 failed with failed | ⟨_, -, failed⟩
        · exact Value.inspectedItems_eq_error items failed
        · cases failed

theorem Value.inspectedEntries_eq_error {cause : Mishap} : ∀ entries : List (Value × Value),
    Value.inspectedEntries entries = .error cause → cause = .numeral .tooLongToWrite
  | (key, value) :: entries, failed => by
      rw [Value.inspectedEntries] at failed
      rcases bind_eq_error.1 failed with failed | ⟨_, -, failed⟩
      · exact Value.inspected_eq_error key failed
      · rcases bind_eq_error.1 failed with failed | ⟨_, -, failed⟩
        · exact Value.inspected_eq_error value failed
        · rcases bind_eq_error.1 failed with failed | ⟨_, -, failed⟩
          · exact Value.inspectedEntries_eq_error entries failed
          · cases failed

end

theorem Value.spelled_eq_error {value : Value} {cause : Mishap} (failed : value.spelled = .error cause) :
    cause = .numeral .tooLongToWrite := by
  cases value with
  | str | date | moment | duration => cases failed
  | _ => exact Value.inspected_eq_error _ failed

/-- A value without a plain text has a whole number in it that cannot be written, and fails for that alone. -/
theorem Value.spelled_eq_error_iff {value : Value} {cause : Mishap} :
    value.spelled = .error cause ↔ value.isWritable = false ∧ cause = .numeral .tooLongToWrite := by
  constructor
  · intro failed
    rw [← value.isOk_spelled, failed]
    exact ⟨rfl, Value.spelled_eq_error failed⟩
  · rintro ⟨unwritable, rfl⟩
    cases spelled : value.spelled with
    | ok text => exact absurd spelled (not_spelled unwritable text)
    | error cause => rw [Value.spelled_eq_error spelled]

/-- A whole number that needs more digits than the limit cannot be written. -/
theorem Value.isWritable_int_eq_false {number : Int} (large : 10 ^ digitLimit ≤ number.natAbs) :
    (Value.int number).isWritable = false := by
  have beyond : 10 ^ digitLimit < 10 ^ (naturalDigits number.natAbs).length :=
    Nat.lt_of_le_of_lt large (lt_pow_length_naturalDigits _)
  have long := (Nat.pow_lt_pow_iff_right (by decide : 1 < 10)).1 beyond
  simpa [Value.isWritable] using long

/-! ## Texts that look like positions -/

theorem showsDigit_facts {char : Char} (shows : showsDigit char = true) :
    isNumeralBlank char = false ∧ char ≠ '-' ∧ char ≠ '+' ∧ char ≠ '_' := by
  refine ⟨?_, ?_, ?_, ?_⟩
  · -- The signs that are no digits stand apart from the blanks, as the digits do.
    have apart : ∀ sign ∈ digitSigns, ∀ range ∈ blanks, sign.2 < range.1 ∨ range.2 < sign.1 := by decide
    rcases Bool.or_eq_true_iff.1 shows with digit | sign
    · exact isNumeralBlank_of_isDigit digit
    · simp only [Ranges.has, List.any_eq_true, Bool.and_eq_true, decide_eq_true_eq] at sign
      obtain ⟨sign, isSign, low, high⟩ := sign
      have noBlank : isBlank char = false := by
        simp only [isBlank, Ranges.has, List.any_eq_false, Bool.and_eq_true, decide_eq_true_eq, not_and]
        intro range isRange
        have := apart sign isSign range isRange
        omega
      simp [isNumeralBlank, noBlank]
  all_goals
    rintro rfl
    exact absurd shows (by decide)

/-- Minus signs, of which there may be none, and digit signs behind them. -/
structure IsIndexLike (text : String) (minuses : Nat) (row : List Char) : Prop where
  isText : text.toList = List.replicate minuses '-' ++ row
  nonempty : row ≠ []
  digits : ∀ char ∈ row, showsDigit char = true

theorem looksLikeIndex_iff {text : String} :
    looksLikeIndex text = true ↔ ∃ minuses row, IsIndexLike text minuses row := by
  unfold looksLikeIndex
  constructor
  · intro looks
    simp only [Bool.and_eq_true, Bool.not_eq_true', List.isEmpty_eq_false_iff, List.all_eq_true] at looks
    refine ⟨(text.toList.takeWhile (· == '-')).length, text.toList.dropWhile (· == '-'), ?_, looks.1, looks.2⟩
    have minuses : text.toList.takeWhile (· == '-') =
        List.replicate (text.toList.takeWhile (· == '-')).length '-' := by
      apply List.eq_replicate_of_mem
      intro char member
      exact eq_of_beq (List.all_eq_true.1 List.all_takeWhile char member)
    rw [← minuses, List.takeWhile_append_dropWhile]
  · rintro ⟨minuses, row, isText, nonempty, digits⟩
    obtain ⟨first, rest, rfl⟩ := List.exists_cons_of_ne_nil nonempty
    have noMinus : ¬ (first == '-') = true := by
      simpa using (showsDigit_facts (digits first List.mem_cons_self)).2.1
    have behind : text.toList.dropWhile (· == '-') = first :: rest := by
      rw [isText, List.dropWhile_append_of_pos (by simp)]
      exact List.dropWhile_cons_of_neg noMinus
    rw [behind]
    simpa using digits

/-! ## Positions -/

/-- What names a position: a whole number, or its numeral within the limit on digits, with a minus or without. -/
inductive Value.Names : Value → Int → Prop where
  | whole (index : Int) : Names (.int index) index
  | numeral (negative : Bool) {row : List Char} : IsDigitRow row → row.length ≤ digitLimit →
      Names (.str (String.ofList (withMinus negative row)))
        (withSign negative (ofDigitValues (row.filterMap digitValue?)))

theorem IsIndexLike.of_row (negative : Bool) {row : List Char} (isRow : IsDigitRow row) :
    IsIndexLike (String.ofList (withMinus negative row)) (if negative then 1 else 0) row where
  isText := by cases negative <;> simp [withMinus]
  nonempty := isRow.nonempty
  digits char member := by simp [showsDigit, isRow.digits char member]

/-- The digits in front of a row of digit signs are read; the first sign that is no digit ends them. -/
theorem digitRun_of_signs {row : List Char} (digits : ∀ char ∈ row, showsDigit char = true) :
    digitRun row = ((row.takeWhile isDigit).filterMap digitValue?, row.dropWhile isDigit) := by
  have stops : ∀ char ∈ (row.dropWhile isDigit).head?, isDigit char = false ∧ char ≠ '_' := by
    intro char isHead
    have member : char ∈ row := (List.dropWhile_suffix isDigit).subset (List.mem_of_head? isHead)
    have notDigit := List.head?_dropWhile_not isDigit row
    rw [isHead] at notDigit
    exact ⟨by simpa using notDigit, (showsDigit_facts (digits char member)).2.2.2⟩
  have read := digitRun_append (List.all_eq_true.1 (List.all_takeWhile (l := row) (p := isDigit))) stops
  rwa [List.takeWhile_append_dropWhile] at read

/-- Nothing is blank at the ends of minus signs and digit signs. -/
theorem IsIndexLike.trimNumeral {text : String} {minuses : Nat} {row : List Char}
    (like : IsIndexLike text minuses row) : trimNumeral text.toList = text.toList := by
  have notBlank : ∀ char ∈ text.toList, isNumeralBlank char = false := by
    intro char member
    rw [like.isText, List.mem_append] at member
    rcases member with minus | digit
    · rw [List.eq_of_mem_replicate minus]
      decide
    · exact (showsDigit_facts (like.digits char digit)).1
  apply trimNumeral_of_ends
  · rw [Option.all_eq_true]
    intro char isFirst
    simp [notBlank char (List.mem_of_head? isFirst)]
  · rw [Option.all_eq_true]
    intro char isLast
    simp [notBlank char (List.mem_of_getLast? isLast)]

/-- A number is read from digits behind a sign or none, with nothing behind them. -/
theorem readWhole_eq_ok {text : String} {index : Int} :
    readWhole text = .ok index ↔ ∃ negative chars digits,
      splitSign (trimNumeral text.toList) = (negative, chars) ∧ digitRun chars = (digits, []) ∧
        digits ≠ [] ∧ digits.length ≤ digitLimit ∧ withSign negative (ofDigitValues digits) = index := by
  unfold readWhole
  rcases splitSign (trimNumeral text.toList) with ⟨negative, chars⟩
  dsimp only
  rcases isRun : digitRun chars with ⟨digits, after⟩
  dsimp only
  constructor
  · intro read
    split at read
    · cases read
    · rename_i begins
      split at read
      · cases read
      · rename_i short
        split at read
        · rename_i nothing
          obtain rfl := List.isEmpty_iff.1 nothing
          refine ⟨negative, chars, digits, rfl, isRun, ?_, Nat.not_lt.1 short, Except.ok.inj read⟩
          rintro rfl
          exact begins rfl
        · cases read
  · rintro ⟨_, _, _, ⟨⟩, isRun', nonempty, short, rfl⟩
    cases isRun.symm.trans isRun'
    simp [nonempty, Nat.not_lt.2 short]

/-- A text that looks like a position and is read as a number names it. -/
theorem IsIndexLike.names {text : String} {minuses : Nat} {row : List Char}
    (like : IsIndexLike text minuses row) {index : Int} (read : readWhole text = .ok index) :
    Value.Names (.str text) index := by
  obtain ⟨negative, chars, digits, isSplit, isRun, nonempty, short, rfl⟩ := readWhole_eq_ok.1 read
  rw [like.trimNumeral, like.isText] at isSplit
  have ofRow : chars = row → text = String.ofList (withMinus negative row) →
      Value.Names (.str text) (withSign negative (ofDigitValues digits)) := by
    rintro rfl isText
    rw [digitRun_of_signs like.digits] at isRun
    obtain ⟨rfl, nothing⟩ := Prod.mk.inj isRun
    have areDigits : ∀ char ∈ chars, isDigit char = true := List.dropWhile_eq_nil_iff.1 nothing
    have whole : chars.takeWhile isDigit = chars := List.takeWhile_eq_self_iff.2 areDigits
    rw [whole] at short ⊢
    rw [List.filterMap_length_eq_length.2 areDigits] at short
    rw [isText]
    exact .numeral negative ⟨areDigits, like.nonempty⟩ short
  have isText := congrArg String.ofList like.isText
  rw [String.ofList_toList] at isText
  -- More than one minus sign leaves one in front of the digits.
  rcases minuses with _ | _ | minuses
  · obtain ⟨first, rest, rfl⟩ := List.exists_cons_of_ne_nil like.nonempty
    obtain ⟨-, noMinus, noPlus, -⟩ := showsDigit_facts (like.digits first List.mem_cons_self)
    rw [List.replicate_zero, List.nil_append, splitSign] at isSplit
    · cases isSplit
      exact ofRow rfl isText
    · exact fun _ isMinus => noMinus (List.cons.inj isMinus).1
    · exact fun _ isPlus => noPlus (List.cons.inj isPlus).1
  · cases isSplit
    exact ofRow rfl isText
  · cases isSplit
    have notDigit : digitRun ([] ++ (List.replicate (minuses + 1) '-' ++ row)) =
        ([], List.replicate (minuses + 1) '-' ++ row) := by
      apply digitRun_append
      · simp
      · rintro _ ⟨⟩
        decide
    cases notDigit.symm.trans isRun

theorem index?_of_names {segment : Value} {index : Int} (names : segment.Names index) :
    segment.index? = .ok (some index) := by
  cases names with
  | whole => rfl
  | numeral negative isRow short =>
      have looks := looksLikeIndex_iff.2 ⟨_, _, IsIndexLike.of_row negative isRow⟩
      rw [Value.index?, if_pos looks, readWhole_of_row negative isRow short]

/-- A text that looks like a position and names none: it has two minus signs, or a sign that is no digit, or too
many digits. -/
def Misleads (text : String) : Prop :=
  (∃ minuses row, IsIndexLike text minuses row) ∧ ∀ index, ¬ Value.Names (.str text) index

/-- A segment names one position, or it is a text that misleads, or it names none and does not look so. -/
theorem index?_cases (segment : Value) :
    (∃ index, segment.Names index ∧ segment.index? = .ok (some index)) ∨
      (∃ text cause, segment = .str text ∧ Misleads text ∧ segment.index? = .error cause) ∨
      segment.index? = .ok none ∧ ∀ text minuses row, segment = .str text → ¬ IsIndexLike text minuses row := by
  cases segment with
  | int index => exact .inl ⟨index, .whole index, rfl⟩
  | str text =>
      rw [Value.index?]
      by_cases looks : looksLikeIndex text = true
      · rw [if_pos looks]
        obtain ⟨minuses, row, like⟩ := looksLikeIndex_iff.1 looks
        cases read : readWhole text with
        | ok index => exact .inl ⟨index, like.names read, rfl⟩
        | error cause =>
            refine .inr (.inl ⟨text, .numeral cause, rfl, ⟨⟨minuses, row, like⟩, ?_⟩, rfl⟩)
            intro index names
            have isIndex := index?_of_names names
            rw [Value.index?, if_pos looks, read] at isIndex
            cases isIndex
      · rw [if_neg looks]
        refine .inr (.inr ⟨rfl, ?_⟩)
        rintro _ minuses row ⟨⟩ like
        exact looks (looksLikeIndex_iff.2 ⟨minuses, row, like⟩)
  | _ => exact .inr (.inr ⟨rfl, nofun⟩)

/-! ## Items -/

/-- A position counts from the front, or from behind the end if it is negative. -/
theorem itemAt_of_place {items : List Value} {index : Int} {place : Nat} (inside : place < items.length)
    (counted : index = place ∨ index = place - items.length) : itemAt items index = items[place] := by
  have isPlace : (if index < 0 then index + items.length else index) = place := by
    rcases counted with rfl | rfl
    · rw [if_neg (by omega)]
    · rw [if_pos (by omega)]
      omega
  unfold itemAt
  rw [isPlace]
  dsimp only
  rw [if_neg (by omega)]
  simp [inside]

theorem itemAt_outside {items : List Value} {index : Int}
    (outside : index < -items.length ∨ items.length ≤ index) : itemAt items index = .null := by
  unfold itemAt
  rcases outside with low | high
  · rw [if_pos (show index < 0 by omega)]
    dsimp only
    rw [if_pos (by omega)]
  · rw [if_neg (show ¬ index < 0 by omega)]
    dsimp only
    rw [if_neg (by omega), List.getD_eq_getElem?_getD, List.getElem?_eq_none (by omega)]
    rfl

/-! ## Properties -/

/-- Has neither entries nor items, and is no text: it is asked for an attribute. -/
def Value.hasAttributes : Value → Bool
  | .bool _ | .int _ | .float _ | .object _ | .date _ | .moment _ | .duration _ | .method _ => true
  | _ => false

/-- The segments that a value refuses instead of having no property: for a sequence a text that misleads, for a
mapping a tuple that cannot be a key, and, where the plain text of a segment is asked for, one that has none. -/
inductive Value.Resists : Value → Value → Prop where
  | position {value : Value} {items : List Value} {text : String} :
      value.items? = some items → Misleads text → Resists value (.str text)
  | key {entries : Entries} {items : List Value} {part : Value} :
      (Value.tuple items).unkeyable? = some part → Resists (.map entries) (.tuple items)
  | name {entries : Entries} {segment : Value} :
      segment.unkeyable? = none → entries.at? segment = none → segment.isWritable = false →
        Resists (.map entries) segment
  | property {value segment : Value} :
      value.hasAttributes = true → segment.isWritable = false → Resists value segment

theorem property_of_items {value : Value} {items : List Value} (isSequence : value.items? = some items)
    {segment : Value} (isThere : segment ≠ .null) : value.property segment = sequenceProperty items segment := by
  cases value with
  | list | tuple =>
      cases isSequence
      cases segment with
      | null => exact absurd rfl isThere
      | _ => rfl
  | _ => cases isSequence

theorem property_of_attributes {value : Value} (hasAttributes : value.hasAttributes = true) {segment : Value}
    (isThere : segment ≠ .null) : value.property segment = attributeProperty value segment := by
  cases value with
  | bool | int | float | object | date | moment | duration | method =>
      cases segment with
      | null => exact absurd rfl isThere
      | _ => rfl
  | _ => cases hasAttributes

theorem sequenceProperty_of_names {segment : Value} {index : Int} (names : segment.Names index)
    (items : List Value) : sequenceProperty items segment = .ok (itemAt items index) := by
  unfold sequenceProperty
  rw [index?_of_names names]
  rfl

theorem sequenceProperty_ok_iff (items : List Value) (segment : Value) :
    (∃ result, sequenceProperty items segment = .ok result) ↔
      ¬ ∃ text, segment = .str text ∧ Misleads text := by
  rcases index?_cases segment with ⟨index, names, -⟩ | ⟨text, cause, rfl, misleads, refused⟩ | ⟨unnamed, plain⟩
  · constructor
    · rintro - ⟨text, rfl, -, noName⟩
      exact noName index names
    · intro _
      exact ⟨_, sequenceProperty_of_names names items⟩
  · constructor
    · rintro ⟨result, isOk⟩
      rw [sequenceProperty, refused] at isOk
      cases isOk
    · intro noText
      exact absurd ⟨text, rfl, misleads⟩ noText
  · constructor
    · rintro - ⟨text, rfl, ⟨minuses, row, like⟩, -⟩
      exact plain text minuses row rfl like
    · intro _
      unfold sequenceProperty
      rw [unnamed]
      cases segment <;> exact ⟨_, rfl⟩

/-- A segment that can be a key is looked for as a key, and then its plain text. -/
theorem mapProperty_of_keyable {segment : Value} (keyable : segment.unkeyable? = none) (entries : Entries) :
    mapProperty entries segment =
      match entries.at? segment with
      | some value => .ok value
      | none => do return (entries.named? (← segment.spelled)).getD .null := by
  cases segment with
  | list | map => cases keyable
  | _ =>
      unfold mapProperty
      dsimp only
      rw [keyable]
      rfl

theorem mapProperty_ok_iff (entries : Entries) (segment : Value) :
    (∃ result, mapProperty entries segment = .ok result) ↔ ¬ (Value.map entries).Resists segment := by
  cases keyable : segment.unkeyable? with
  | none =>
      rw [mapProperty_of_keyable keyable]
      cases isKey : entries.at? segment with
      | some value =>
          constructor
          · rintro - resists
            cases resists with
            | key refused => cases keyable.symm.trans refused
            | name _ noKey => cases isKey.symm.trans noKey
            | position isSequence => cases isSequence
            | property none => cases none
          · intro _
            exact ⟨value, rfl⟩
      | none =>
          dsimp only
          constructor
          · rintro ⟨result, isOk⟩ resists
            cases resists with
            | key refused => cases keyable.symm.trans refused
            | name _ _ unwritable =>
                obtain ⟨text, spelled, -⟩ := bind_eq_ok.1 isOk
                exact not_spelled unwritable text spelled
            | position isSequence => cases isSequence
            | property none => cases none
          · intro yields
            cases writable : segment.isWritable with
            | false => exact absurd (.name keyable isKey writable) yields
            | true =>
                obtain ⟨text, spelled⟩ := exists_spelled writable
                exact ⟨_, bind_eq_ok.2 ⟨text, spelled, rfl⟩⟩
  | some part =>
      cases segment with
      | list | map =>
          constructor
          · rintro - resists
            cases resists with
            | name isKeyable => cases isKeyable
            | property none => cases none
          · intro _
            exact ⟨.null, rfl⟩
      | tuple items =>
          constructor
          · rintro ⟨result, isOk⟩
            unfold mapProperty at isOk
            dsimp only at isOk
            rw [keyable] at isOk
            cases isOk
          · intro yields
            exact absurd (.key keyable) yields
      | _ => cases keyable

theorem attributeProperty_ok_iff (value segment : Value) :
    (∃ result, attributeProperty value segment = .ok result) ↔ segment.isWritable = true := by
  constructor
  · rintro ⟨result, isOk⟩
    obtain ⟨name, spelled, -⟩ := bind_eq_ok.1 isOk
    rw [← segment.isOk_spelled, spelled]
    rfl
  · intro writable
    obtain ⟨name, spelled⟩ := exists_spelled writable
    exact ⟨_, bind_eq_ok.2 ⟨name, spelled, rfl⟩⟩

/-- Each value finds or misses what a segment names, unless it resists the segment. -/
theorem property_ok_iff (value segment : Value) :
    (∃ result, value.property segment = .ok result) ↔ ¬ value.Resists segment := by
  by_cases isNull : segment = .null
  · subst isNull
    constructor
    · rintro - resists
      cases resists with
      | name _ _ unwritable => cases unwritable
      | property _ unwritable => cases unwritable
    · intro _
      cases value <;> exact ⟨.null, rfl⟩
  · cases value with
    | null =>
        constructor
        · rintro - resists
          cases resists with
          | position isSequence => cases isSequence
          | property none => cases none
        · intro _
          exact ⟨.null, rfl⟩
    | str text =>
        constructor
        · rintro - resists
          cases resists with
          | position isSequence => cases isSequence
          | property none => cases none
        · intro _
          cases segment <;> exact ⟨_, rfl⟩
    | list items | tuple items =>
        rw [property_of_items rfl isNull, sequenceProperty_ok_iff]
        constructor
        · rintro yields resists
          cases resists with
          | position _ misleads => exact yields ⟨_, rfl, misleads⟩
          | property none => cases none
        · rintro yields ⟨text, rfl, misleads⟩
          exact yields (.position rfl misleads)
    | map entries =>
        have isMapProperty : (Value.map entries).property segment = mapProperty entries segment := by
          cases segment with
          | null => exact absurd rfl isNull
          | _ => rfl
        rw [isMapProperty]
        exact mapProperty_ok_iff entries segment
    | _ =>
        rw [property_of_attributes rfl isNull, attributeProperty_ok_iff]
        constructor
        · rintro writable resists
          cases resists with
          | position isSequence => cases isSequence
          | property _ unwritable => cases writable.symm.trans unwritable
        · intro yields
          cases writable : segment.isWritable with
          | true => rfl
          | false => exact absurd (.property rfl writable) yields

/-- What a segment finds. A value has a result for every segment, unless it resists it. In a sequence a whole
number, or its numeral in decimal digits within the limit, with a minus or without, finds the item at that position,
counted from behind the end if it is negative, and nothing where no item stands; `length` finds the number of items;
and a text that does not look like a position finds nothing. In a mapping a list or a mapping finds nothing. -/
theorem properties_are_found (value segment : Value) :
    ((∃ result, value.property segment = .ok result) ↔ ¬ value.Resists segment) ∧
      (∀ items, value.items? = some items →
        (∀ index, Value.Names segment index →
          (∀ place (inside : place < items.length), index = place ∨ index = place - items.length →
              value.property segment = .ok items[place]) ∧
            (index < -items.length ∨ items.length ≤ index → value.property segment = .ok .null)) ∧
          value.property (.str "length") = .ok (.int items.length) ∧
          ∀ text, text ≠ "length" → (∀ minuses row, ¬ IsIndexLike text minuses row) →
            value.property (.str text) = .ok .null) ∧
      ∀ entries, value = .map entries → segment.unkeyable?.isSome → (∀ items, segment ≠ .tuple items) →
        value.property segment = .ok .null := by
  refine ⟨property_ok_iff value segment, ?_, ?_⟩
  · intro items isSequence
    have unlooking : ∀ text, (∀ minuses row, ¬ IsIndexLike text minuses row) →
        value.property (.str text) = .ok (if text == "length" then .int items.length else .null) := by
      intro text plain
      have notLike : looksLikeIndex text = false := by
        rw [← Bool.not_eq_true, looksLikeIndex_iff]
        rintro ⟨minuses, row, like⟩
        exact plain minuses row like
      have isThere : Value.str text ≠ .null := nofun
      rw [property_of_items isSequence isThere, sequenceProperty, Value.index?, notLike]
      rfl
    refine ⟨?_, ?_, ?_⟩
    · intro index names
      have isThere : segment ≠ .null := by
        rintro rfl
        cases names
      rw [property_of_items isSequence isThere, sequenceProperty_of_names names]
      constructor
      · intro place inside counted
        rw [itemAt_of_place inside counted]
      · intro outside
        rw [itemAt_outside outside]
    · have notLike : ∀ minuses row, ¬ IsIndexLike "length" minuses row := by
        intro minuses row like
        have looks := looksLikeIndex_iff.2 ⟨minuses, row, like⟩
        exact absurd looks (by decide +kernel)
      exact unlooking "length" notLike
    · intro text notLength plain
      rw [unlooking text plain, if_neg (by simpa using notLength)]
  · rintro entries rfl unkeyable notTuple
    cases segment with
    | list | map => rfl
    | tuple items => exact absurd rfl (notTuple items)
    | _ => cases unkeyable

/-- The law for a tuple of three, with positions from either end in digits of two scripts, one outside, and a text
that is no position; for a mapping that is asked for a list; and for a mapping that does not resist a tuple. -/
theorem properties_are_found_in_tuple :
    let items := [Value.str "a", .str "b", .str "c"]
    (Value.tuple items).property (.str "-03") = .ok (.str "a") ∧
      (Value.tuple items).property (.str "٢") = .ok (.str "c") ∧
      (Value.tuple items).property (.str "-4") = .ok .null ∧
      (Value.tuple items).property (.str "1.0") = .ok .null ∧
      (Value.map [(.str "k", .null)]).property (.list [.str "k"]) = .ok .null ∧
      ∃ result, (Value.map []).property (.tuple [.str "k", .int 1]) = .ok result := by
  intro items
  have fromEnd : Value.Names (.str "-03") (-3) :=
    @Value.Names.numeral true ['0', '3'] ⟨List.all_eq_true.1 (by decide), List.cons_ne_nil _ _⟩ (by decide)
  have otherScript : Value.Names (.str "٢") 2 :=
    @Value.Names.numeral false ['٢'] ⟨List.all_eq_true.1 (by decide), List.cons_ne_nil _ _⟩ (by decide)
  have outside : Value.Names (.str "-4") (-4) :=
    @Value.Names.numeral true ['4'] ⟨List.all_eq_true.1 (by decide), List.cons_ne_nil _ _⟩ (by decide)
  have notLike : ∀ minuses row, ¬ IsIndexLike "1.0" minuses row := by
    intro minuses row like
    have looks := looksLikeIndex_iff.2 ⟨minuses, row, like⟩
    exact absurd looks (by decide +kernel)
  have accepted : ¬ (Value.map []).Resists (.tuple [.str "k", .int 1]) := by
    intro resists
    cases resists with
    | key refused => cases refused
    | name _ _ unwritable => exact absurd unwritable (by decide +kernel)
    | property none => cases none
  have found (segment : Value) := (properties_are_found (.tuple items) segment).2.1 items rfl
  refine ⟨?_, ?_, ?_, ?_, ?_, ?_⟩
  · exact ((found _).1 _ fromEnd).1 0 (by decide) (.inr rfl)
  · exact ((found _).1 _ otherScript).1 2 (by decide) (.inl rfl)
  · exact ((found _).1 _ outside).2 (.inl (by decide))
  · exact (found .null).2.2 "1.0" (by decide) notLike
  · exact (properties_are_found (.map [(.str "k", .null)]) (.list [.str "k"])).2.2 _ rfl rfl fun _ => nofun
  · exact (properties_are_found (.map []) _).1.2 accepted

/-- Not every segment finds something or nothing. A tuple that holds a list is refused as a key, and a text with two
minus signs, or with a sign that is no decimal digit, is refused as a position. -/
theorem properties_are_refused :
    (Value.map []).property (.tuple [.list [.int 1]]) = .error (.unkeyable "list") ∧
      (Value.list [.str "a"]).property (.str "--0") = .error (.numeral (.notWhole "--0")) ∧
      (Value.list [.str "a"]).property (.str "²") = .error (.numeral (.notWhole "²")) := by
  refine ⟨rfl, ?_, ?_⟩
  · have refused : ((Value.list [.str "a"]).property (.str "--0")).map (fun _ => ()) =
        .error (.numeral (.notWhole "--0")) := by decide +kernel
    exact map_eq_error.1 refused
  · have refused : ((Value.list [.str "a"]).property (.str "²")).map (fun _ => ()) =
        .error (.numeral (.notWhole "²")) := by decide +kernel
    exact map_eq_error.1 refused

end Folio
