import Folio.Proofs.Value.Property
import Folio.Site

/-!
Contract: which values of data have a text.

Owns: values as a document of data has them; the keys of all maps in a value; and the law that such a value has a
text exactly if no key in it is a day or a moment, with the failure that the first such key is told by, and with
the text of a list made of the texts of its items.

Does not own: what a text looks like beyond that.
-/

namespace Folio

open Folio.Number

/-! ## Values of data -/

namespace Value

/-- A value of one piece. A whole number has no more digits than can be written. -/
def isScalar : Value → Bool
  | .null | .bool _ | .float _ | .str _ | .date _ | .moment _ => true
  | .int number => (Value.int number).isWritable
  | .list _ | .tuple _ | .map _ | .object _ | .duration _ | .method _ => false

mutual

/-- Made of scalars by lists, and by maps whose keys are scalars, to any depth. -/
def isData : Value → Bool
  | .list items => areData items
  | .map entries => areDataEntries entries
  | value => value.isScalar

def areData : List Value → Bool
  | [] => true
  | item :: items => item.isData && areData items

def areDataEntries : List (Value × Value) → Bool
  | [] => true
  | (key, value) :: entries => key.isScalar && (value.isData && areDataEntries entries)

end

mutual

/-- The keys of all maps in a value, in the order in which they are written. -/
def keys : Value → List Value
  | .list items => keysIn items
  | .map entries => keysInEntries entries
  | _ => []

def keysIn : List Value → List Value
  | [] => []
  | item :: items => item.keys ++ keysIn items

def keysInEntries : List (Value × Value) → List Value
  | [] => []
  | (key, value) :: entries => key :: (value.keys ++ keysInEntries entries)

end

/-- A day or a moment. -/
def isCalendar : Value → Bool
  | .date _ | .moment _ => true
  | _ => false

end Value

/-! ## Failing at a key -/

/-- There is a result unless some key is a day or a moment, and then the first such key is reported. -/
def FailsAtCalendar {α : Type} (keys : List Value) (outcome : Except Mishap α) : Prop :=
  match keys.find? Value.isCalendar with
  | none => outcome.isOk = true
  | some key => outcome = .error (.keyWithoutText key.fullKindName)

namespace FailsAtCalendar

variable {α β : Type} {keys keys' : List Value}

theorem ok (result : α) : FailsAtCalendar [] (.ok result) := rfl

/-- One thing after another fails at the keys of both. -/
theorem bind {first : Except Mishap α} {next : α → Except Mishap β} (fails : FailsAtCalendar keys first)
    (nextFails : ∀ result, FailsAtCalendar keys' (next result)) :
    FailsAtCalendar (keys ++ keys') (first >>= next) := by
  unfold FailsAtCalendar at fails ⊢
  rw [List.find?_append]
  cases found : keys.find? Value.isCalendar with
  | some key =>
      rw [found] at fails
      simp only at fails
      rw [fails]
      rfl
  | none =>
      rw [found] at fails
      obtain ⟨result, rfl⟩ := exists_of_isOk fails
      exact nextFails result

/-- What is made of a result changes nothing. -/
theorem bind_pure {first : Except Mishap α} (fails : FailsAtCalendar keys first) (change : α → β) :
    FailsAtCalendar keys (do return change (← first)) := by
  rw [← List.append_nil keys]
  apply fails.bind
  intro result
  apply ok

theorem isOk_iff {outcome : Except Mishap α} (fails : FailsAtCalendar keys outcome) :
    outcome.isOk = true ↔ ∀ key ∈ keys, key.isCalendar = false := by
  unfold FailsAtCalendar at fails
  cases found : keys.find? Value.isCalendar with
  | none =>
      rw [found] at fails
      simp only [List.find?_eq_none, Bool.not_eq_true] at found
      exact iff_of_true fails found
  | some key =>
      rw [found] at fails
      simp only at fails
      apply iff_of_false
      · simp [fails, Except.isOk, Except.toBool]
      · intro noCalendar
        have isCalendar := List.find?_some found
        simp [noCalendar key (List.mem_of_find?_eq_some found)] at isCalendar

theorem error_iff {outcome : Except Mishap α} (fails : FailsAtCalendar keys outcome) {cause : Mishap} :
    outcome = .error cause ↔
      ∃ key, keys.find? Value.isCalendar = some key ∧ cause = .keyWithoutText key.fullKindName := by
  unfold FailsAtCalendar at fails
  cases found : keys.find? Value.isCalendar with
  | none =>
      rw [found] at fails
      obtain ⟨result, rfl⟩ := exists_of_isOk fails
      simp
  | some key =>
      rw [found] at fails
      simp only at fails
      simp [fails, eq_comm]

end FailsAtCalendar

/-! ## Texts -/

namespace Value

theorem isOk_writeInt_of_isScalar {number : Int} (scalar : (Value.int number).isScalar = true) :
    (writeInt number).isOk = true := by
  rw [isOk_writeInt]
  exact scalar

/-- A key fails exactly if it is a day or a moment. -/
theorem jsonKey_fails {key : Value} (scalar : key.isScalar = true) : FailsAtCalendar [key] key.jsonKey := by
  match key with
  | .int number => exact isOk_writeInt_of_isScalar scalar
  | .null | .bool _ | .float _ | .str _ | .date _ | .moment _ => rfl

mutual

theorem json_fails : ∀ value : Value, value.isData = true → FailsAtCalendar value.keys value.json
  | .null, _ | .bool _, _ | .float _, _ | .str _, _ | .date _, _ | .moment _, _ => rfl
  | .int _, scalar => isOk_writeInt_of_isScalar scalar
  | .list items, data => by
      rw [json, keys]
      apply FailsAtCalendar.bind_pure
      exact jsonItems_fails items data
  | .map entries, data => by
      rw [json, keys]
      apply FailsAtCalendar.bind_pure
      exact jsonEntries_fails entries data

theorem jsonItems_fails :
    ∀ items : List Value, areData items = true → FailsAtCalendar (keysIn items) (jsonItems items)
  | [], _ => rfl
  | item :: items, data => by
      rw [areData, Bool.and_eq_true] at data
      rw [jsonItems, keysIn]
      apply (json_fails item data.1).bind
      intro first
      apply FailsAtCalendar.bind_pure
      exact jsonItems_fails items data.2

theorem jsonEntries_fails : ∀ entries : List (Value × Value), areDataEntries entries = true →
    FailsAtCalendar (keysInEntries entries) (jsonEntries entries)
  | [], _ => rfl
  | (key, value) :: entries, data => by
      rw [areDataEntries, Bool.and_eq_true, Bool.and_eq_true] at data
      rw [jsonEntries]
      -- The key is written first, then its value, then the entries behind.
      show FailsAtCalendar ([key] ++ (value.keys ++ keysInEntries entries)) _
      apply (jsonKey_fails data.1).bind
      intro name
      apply (json_fails value data.2.1).bind
      intro text
      apply FailsAtCalendar.bind_pure
      exact jsonEntries_fails entries data.2.2

end

mutual

theorem text_fails : ∀ value : Value, value.isData = true → FailsAtCalendar value.keys value.text
  | .null, _ | .bool _, _ | .str _, _ | .date _, _ | .moment _, _ => rfl
  | .int _, scalar => isOk_writeInt_of_isScalar scalar
  | .float number, _ => by
      -- A whole number is written without its point, any other as it is; both always have a text.
      show FailsAtCalendar [] (Value.float number).text
      unfold text
      split <;> apply FailsAtCalendar.ok
  | .list items, data => by
      rw [text, keys]
      apply FailsAtCalendar.bind_pure
      exact texts_fails items data
  | .map entries, data => json_fails (.map entries) data

theorem texts_fails :
    ∀ items : List Value, areData items = true → FailsAtCalendar (keysIn items) (texts items)
  | [], _ => rfl
  | item :: items, data => by
      rw [areData, Bool.and_eq_true] at data
      rw [texts, keysIn]
      apply (text_fails item data.1).bind
      intro first
      apply FailsAtCalendar.bind_pure
      exact texts_fails items data.2

end

theorem texts_eq_mapM (items : List Value) : texts items = items.mapM text := by
  induction items with
  | nil => rfl
  | cons item items inductionHypothesis => rw [texts, inductionHypothesis, List.mapM_cons]

end Value

/-- Which values of data have a text. Take any value that scalars, lists and maps with scalar keys make up, to any
depth, with no whole number beyond the limit on digits. It has a text exactly if no map in it, however deep, has a
day or a moment for a key, and otherwise it fails for the first such key, by the name of its kind. The text of a
list, wherever it stands, is that of its items with commas between them. -/
theorem data_has_text {value : Value} (isData : value.isData = true) :
    (value.text.isOk = true ↔ ∀ key ∈ value.keys, key.isCalendar = false) ∧
      (∀ cause, value.text = .error cause ↔
        ∃ key, value.keys.find? Value.isCalendar = some key ∧ cause = .keyWithoutText key.fullKindName) ∧
      ∀ items, (Value.list items).text = (items.mapM Value.text).map (",".intercalate ·) := by
  have fails := value.text_fails isData
  refine ⟨fails.isOk_iff, ?_, ?_⟩
  · intro cause
    apply fails.error_iff
  · intro items
    rw [Value.text, Value.texts_eq_mapM]
    cases items.mapM Value.text <;> rfl

/-- The law for a list in a list with a map in it, whose keys are of every kind but those of the calendar, and for
the same map with a moment for a key deep inside. -/
theorem data_has_text_in_lists :
    let keys := [Value.null, .bool true, .int 7, .float (.infinite true), .str "k"]
    let value (inner : Value) : Value :=
      .list [.list [.int 1, .date ⟨2024, 2, 29⟩], .map (keys.map fun key => (key, .list [inner]))]
    let time : Moment := ⟨⟨2024, 2, 29⟩, 1, 2, 3, 0⟩
    (value .null).isData = true ∧ (value .null).text.isOk = true ∧
      (value (.map [(.moment time, .null)])).isData = true ∧
      (value (.map [(.moment time, .null)])).text = .error (.keyWithoutText "datetime.datetime") := by
  intro keys value time
  have isData : (value .null).isData = true := by decide +kernel
  have isData' : (value (.map [(.moment time, .null)])).isData = true := by decide +kernel
  refine ⟨isData, ?_, isData', ?_⟩
  · apply (data_has_text isData).1.2
    decide +kernel
  · apply ((data_has_text isData').2.1 _).2
    exact ⟨.moment time, rfl, rfl⟩

/-- A map of data with a day for a key has no text, so a page that is given one by its front matter cannot show
it. -/
theorem calendar_key_has_no_text :
    let value : Value := .map [(.date ⟨2024, 1, 1⟩, .str "x")]
    let page := "---\nd:\n  2024-01-01: x\n---\n\x7b\x7b d \x7d\x7d"
    value.isData = true ∧ value.text = .error (.keyWithoutText "datetime.date") ∧
      (Site.render "a" [] (Site.new .default (.memory [("a.html", page)]) .standard)).1 =
        .error (.mishap (.keyWithoutText "datetime.date")) := by
  decide +kernel

end Folio
