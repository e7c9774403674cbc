import Folio.Proofs.Relation
import Folio.Value.Property

/-!
Contract: values that differ in private attributes alone.

Owns: when two values, rows of values and mappings are alike up to attributes whose names are private, at any
depth; that each of them is alike to itself; and that texts of values, keys, what is found and put under keys,
positions and properties cannot tell such values apart.

Does not own: what filters do with values.
-/

namespace Folio

open Folio.Text Folio.Number

/-! ## Alike values -/

mutual

/-- The same value up to private attributes. Of objects only the attributes under public names have to be there
on both sides and to be alike; private ones may differ, or be there on one side only. -/
inductive Value.Alike : Value → Value → Prop
  | null : Value.Alike .null .null
  | bool (value : Bool) : Value.Alike (.bool value) (.bool value)
  | int (value : Int) : Value.Alike (.int value) (.int value)
  | float (value : Binary64) : Value.Alike (.float value) (.float value)
  | str (text : String) : Value.Alike (.str text) (.str text)
  | list {items items' : List Value} (alike : Value.AllAlike items items') :
      Value.Alike (.list items) (.list items')
  | tuple {items items' : List Value} (alike : Value.AllAlike items items') :
      Value.Alike (.tuple items) (.tuple items')
  | map {entries entries' : Entries} (alike : Entries.Alike entries entries') :
      Value.Alike (.map entries) (.map entries')
  | object {attributes attributes' : List (String × Value)}
      (present : ∀ name, isPublicName name = true →
        (attributeAmong? attributes name).isSome = (attributeAmong? attributes' name).isSome)
      (alike : ∀ name value value', isPublicName name = true →
        attributeAmong? attributes name = some value → attributeAmong? attributes' name = some value' →
        Value.Alike value value') :
      Value.Alike (.object attributes) (.object attributes')
  | date (day : Date) : Value.Alike (.date day) (.date day)
  | moment (time : Moment) : Value.Alike (.moment time) (.moment time)
  | duration (span : Duration) : Value.Alike (.duration span) (.duration span)
  | method (taken : Method) : Value.Alike (.method taken) (.method taken)

inductive Value.AllAlike : List Value → List Value → Prop
  | nil : Value.AllAlike [] []
  | cons {value value' : Value} {values values' : List Value} (first : Value.Alike value value')
      (rest : Value.AllAlike values values') : Value.AllAlike (value :: values) (value' :: values')

inductive Entries.Alike : Entries → Entries → Prop
  | nil : Entries.Alike [] []
  | cons {key key' value value' : Value} {entries entries' : Entries} (keys : Value.Alike key key')
      (values : Value.Alike value value') (rest : Entries.Alike entries entries') :
      Entries.Alike ((key, value) :: entries) ((key', value') :: entries')

end

theorem mem_of_attributeAmong? {attributes : List (String × Value)} {name : String} {value : Value}
    (found : attributeAmong? attributes name = some value) : (name, value) ∈ attributes := by
  unfold attributeAmong? at found
  obtain ⟨front, back, isRow, -⟩ := List.lookup_eq_some_iff.1 found
  rw [← List.mem_reverse, isRow]
  exact List.mem_append_right front List.mem_cons_self

mutual

theorem Value.Alike.refl : (value : Value) → value.Alike value
  | .null => .null
  | .bool value => .bool value
  | .int value => .int value
  | .float value => .float value
  | .str text => .str text
  | .list items => .list (Value.AllAlike.refl items)
  | .tuple items => .tuple (Value.AllAlike.refl items)
  | .map entries => .map (Entries.Alike.refl entries)
  | .object attributes => by
      refine .object (fun _ _ => rfl) ?_
      intro name value value' _ found found'
      obtain rfl := Option.some.inj (found.symm.trans found')
      exact Value.Alike.refl_of_mem attributes _ (mem_of_attributeAmong? found)
  | .date day => .date day
  | .moment time => .moment time
  | .duration span => .duration span
  | .method taken => .method taken

theorem Value.AllAlike.refl : (values : List Value) → Value.AllAlike values values
  | [] => .nil
  | value :: values => .cons (Value.Alike.refl value) (Value.AllAlike.refl values)

theorem Entries.Alike.refl : (entries : List (Value × Value)) → Entries.Alike entries entries
  | [] => .nil
  | (key, value) :: entries =>
      .cons (Value.Alike.refl key) (Value.Alike.refl value) (Entries.Alike.refl entries)

theorem Value.Alike.refl_of_mem : (attributes : List (String × Value)) →
    ∀ pair ∈ attributes, pair.2.Alike pair.2
  | [], _, member => absurd member List.not_mem_nil
  | (name, value) :: attributes, pair, member => by
      rcases List.mem_cons.1 member with rfl | member
      · exact Value.Alike.refl value
      · exact Value.Alike.refl_of_mem attributes pair member

end

/-- Private attributes in front or behind do not change what stands under a public name. -/
theorem attributeAmong?_filter (attributes : List (String × Value)) {name : String}
    (isPublic : isPublicName name = true) :
    attributeAmong? (attributes.filter fun pair => isPublicName pair.1) name =
      attributeAmong? attributes name := by
  unfold attributeAmong?
  rw [← List.filter_reverse]
  induction attributes.reverse with
  | nil => rfl
  | cons pair pairs inductionHypothesis =>
      obtain ⟨present, value⟩ := pair
      by_cases publicToo : isPublicName present = true
      · rw [List.filter_cons, if_pos publicToo, List.lookup_cons, List.lookup_cons, inductionHypothesis]
      · have notName : (name == present) = false := by
          rw [beq_eq_false_iff_ne]
          rintro rfl
          exact publicToo isPublic
        rw [List.filter_cons, if_neg publicToo, List.lookup_cons, notName]
        exact inductionHypothesis

/-- Objects with the same public attributes are alike, whatever private ones they have. -/
theorem Value.Alike.object_of_filter {attributes attributes' : List (String × Value)}
    (same : attributes.filter (fun pair => isPublicName pair.1) =
      attributes'.filter fun pair => isPublicName pair.1) :
    (Value.object attributes).Alike (.object attributes') := by
  have sameUnder : ∀ name, isPublicName name = true →
      attributeAmong? attributes name = attributeAmong? attributes' name := by
    intro name isPublic
    rw [← attributeAmong?_filter attributes isPublic, same, attributeAmong?_filter attributes' isPublic]
  refine .object (fun name isPublic => congrArg Option.isSome (sameUnder name isPublic)) ?_
  intro name value value' isPublic found found'
  rw [sameUnder name isPublic, found'] at found
  cases found
  exact .refl value

/-! ## Rows -/

theorem Value.AllAlike.length_eq {values values' : List Value} (alike : Value.AllAlike values values') :
    values.length = values'.length := by
  induction values generalizing values' with
  | nil =>
      cases alike
      rfl
  | cons value values inductionHypothesis =>
      cases alike with
      | cons first rest => rw [List.length_cons, List.length_cons, inductionHypothesis rest]

theorem Value.AllAlike.getD {values values' : List Value} (alike : Value.AllAlike values values')
    (index : Nat) : (values.getD index .null).Alike (values'.getD index .null) := by
  induction values generalizing values' index with
  | nil =>
      cases alike
      exact .null
  | cons value values inductionHypothesis =>
      cases alike with
      | cons first rest =>
          cases index with
          | zero => exact first
          | succ index => exact inductionHypothesis rest index

theorem Value.AllAlike.headD {values values' : List Value} (alike : Value.AllAlike values values')
    {default default' : Value} (defaults : default.Alike default') :
    (values.headD default).Alike (values'.headD default') := by
  cases alike with
  | nil => exact defaults
  | cons first rest => exact first

/-- The values of alike mappings, in the order of their keys. -/
theorem Entries.Alike.values {entries entries' : Entries} (alike : entries.Alike entries') :
    Value.AllAlike (entries.map Prod.snd) (entries'.map Prod.snd) := by
  induction entries generalizing entries' with
  | nil =>
      cases alike
      exact .nil
  | cons entry entries inductionHypothesis =>
      cases alike with
      | cons keys values rest => exact .cons values (inductionHypothesis rest)

/-! ## What may be there -/

theorem optional_refl (found : Option Value) : Option.Rel Value.Alike found found := by
  cases found with
  | none => exact .none
  | some value => exact .some (.refl value)

/-- The first of two values that is there. -/
theorem optional_or {found found' other other' : Option Value} (values : Option.Rel Value.Alike found found')
    (others : Option.Rel Value.Alike other other') :
    Option.Rel Value.Alike (found.or other) (found'.or other') := by
  cases values with
  | some values => exact .some values
  | none => exact others

theorem optional_getD {found found' : Option Value} (values : Option.Rel Value.Alike found found') :
    (found.getD .null).Alike (found'.getD .null) := by
  cases values with
  | some values => exact values
  | none => exact .null

/-! ## Texts -/

theorem Value.Alike.kindName_eq {value value' : Value} (alike : value.Alike value') :
    value.kindName = value'.kindName := by
  cases alike <;> rfl

theorem Value.Alike.jsonKey_eq {value value' : Value} (alike : value.Alike value') :
    value.jsonKey = value'.jsonKey := by
  cases alike <;> rfl

mutual

theorem Value.Alike.json_eq {value value' : Value} (alike : value.Alike value') :
    value.json = value'.json := by
  cases alike with
  | list items => rw [Value.json, Value.json, items.jsonItems_eq]
  | tuple items => rw [Value.json, Value.json, items.jsonItems_eq]
  | map entries => rw [Value.json, Value.json, entries.jsonEntries_eq]
  | _ => rfl

theorem Value.AllAlike.jsonItems_eq {values values' : List Value} (alike : Value.AllAlike values values') :
    Value.jsonItems values = Value.jsonItems values' := by
  cases alike with
  | nil => rfl
  | cons first rest => rw [Value.jsonItems, Value.jsonItems, first.json_eq, rest.jsonItems_eq]

theorem Entries.Alike.jsonEntries_eq {entries entries' : Entries} (alike : entries.Alike entries') :
    Value.jsonEntries entries = Value.jsonEntries entries' := by
  cases alike with
  | nil => rfl
  | cons keys values rest =>
      rw [Value.jsonEntries, Value.jsonEntries, keys.jsonKey_eq, values.json_eq, rest.jsonEntries_eq]

end

mutual

theorem Value.Alike.text_eq {value value' : Value} (alike : value.Alike value') :
    value.text = value'.text := by
  cases alike with
  | list items => rw [Value.text, Value.text, items.texts_eq]
  | tuple items => rw [Value.text, Value.text, items.texts_eq]
  | map entries => rw [Value.text, Value.text, (Value.Alike.map entries).json_eq]
  | _ => rfl

theorem Value.AllAlike.texts_eq {values values' : List Value} (alike : Value.AllAlike values values') :
    Value.texts values = Value.texts values' := by
  cases alike with
  | nil => rfl
  | cons first rest => rw [Value.texts, Value.texts, first.text_eq, rest.texts_eq]

end

mutual

theorem Value.Alike.inspected_eq {value value' : Value} (alike : value.Alike value') :
    value.inspected = value'.inspected := by
  cases alike with
  | list items => rw [Value.inspected, Value.inspected, items.inspectedItems_eq]
  | tuple items => rw [Value.inspected, Value.inspected, items.inspectedItems_eq]
  | map entries => rw [Value.inspected, Value.inspected, entries.inspectedEntries_eq]
  | _ => rfl

theorem Value.AllAlike.inspectedItems_eq {values values' : List Value}
    (alike : Value.AllAlike values values') :
    Value.inspectedItems values = Value.inspectedItems values' := by
  cases alike with
  | nil => rfl
  | cons first rest =>
      rw [Value.inspectedItems, Value.inspectedItems, first.inspected_eq, rest.inspectedItems_eq]

theorem Entries.Alike.inspectedEntries_eq {entries entries' : Entries} (alike : entries.Alike entries') :
    Value.inspectedEntries entries = Value.inspectedEntries entries' := by
  cases alike with
  | nil => rfl
  | cons keys values rest =>
      rw [Value.inspectedEntries, Value.inspectedEntries, keys.inspected_eq, values.inspected_eq,
        rest.inspectedEntries_eq]

end

theorem Value.Alike.spelled_eq {value value' : Value} (alike : value.Alike value') :
    value.spelled = value'.spelled := by
  have inspected := alike.inspected_eq
  cases alike with
  | str text => rfl
  | date day => rfl
  | moment time => rfl
  | duration span => rfl
  | _ => exact inspected

/-! ## Keys -/

theorem Value.Alike.sameQuantity_eq {value value' : Value} (alike : value.Alike value')
    (quantity : Quantity) : Value.sameQuantity quantity value = Value.sameQuantity quantity value' := by
  cases alike <;> rfl

mutual

theorem Value.Alike.sameKey_eq {key key' other other' : Value} (keys : key.Alike key')
    (others : other.Alike other') : key.sameKey other = key'.sameKey other' := by
  cases keys with
  | bool value => exact others.sameQuantity_eq _
  | int value => exact others.sameQuantity_eq _
  | float value => exact others.sameQuantity_eq _
  | tuple items =>
      cases others with
      | tuple otherItems =>
          rw [Value.sameKey, Value.sameKey]
          exact items.sameKeys_eq otherItems
      | _ => rfl
  | _ => cases others <;> rfl

theorem Value.AllAlike.sameKeys_eq {keys keys' others others' : List Value}
    (alike : Value.AllAlike keys keys') (othersAlike : Value.AllAlike others others') :
    Value.sameKeys keys others = Value.sameKeys keys' others' := by
  cases alike with
  | nil => cases othersAlike <;> rfl
  | cons first rest =>
      cases othersAlike with
      | nil => rfl
      | cons otherFirst otherRest =>
          rw [Value.sameKeys, Value.sameKeys, first.sameKey_eq otherFirst, rest.sameKeys_eq otherRest]

end

theorem Value.unkeyableIn?_cons (item : Value) (items : List Value) :
    Value.unkeyableIn? (item :: items) = item.unkeyable?.or (Value.unkeyableIn? items) := by
  rw [Value.unkeyableIn?]
  cases item.unkeyable? with
  | some part => rfl
  | none => rfl

mutual

/-- What cannot be a key has alike parts that cannot be one. -/
theorem Value.Alike.unkeyable? {value value' : Value} (alike : value.Alike value') :
    Option.Rel Value.Alike value.unkeyable? value'.unkeyable? := by
  cases alike with
  | list items => exact .some (.list items)
  | map entries => exact .some (.map entries)
  | tuple items => exact items.unkeyableIn?
  | _ => exact .none

theorem Value.AllAlike.unkeyableIn? {values values' : List Value} (alike : Value.AllAlike values values') :
    Option.Rel Value.Alike (Value.unkeyableIn? values) (Value.unkeyableIn? values') := by
  cases alike with
  | nil => exact .none
  | cons first rest =>
      rw [Value.unkeyableIn?_cons, Value.unkeyableIn?_cons]
      exact optional_or first.unkeyable? rest.unkeyableIn?

end

namespace Entries.Alike

variable {entries entries' : Entries}

theorem at? (alike : entries.Alike entries') {key key' : Value} (keys : key.Alike key') :
    Option.Rel Value.Alike (entries.at? key) (entries'.at? key') := by
  induction entries generalizing entries' with
  | nil =>
      cases alike
      exact .none
  | cons entry entries inductionHypothesis =>
      cases alike with
      | cons present values rest =>
          rw [Entries.at?, Entries.at?, present.sameKey_eq keys]
          split
          · exact .some values
          · exact inductionHypothesis rest

theorem put (alike : entries.Alike entries') {key key' value value' : Value} (keys : key.Alike key')
    (values : value.Alike value') : (entries.put key value).Alike (entries'.put key' value') := by
  induction entries generalizing entries' with
  | nil =>
      cases alike
      exact .cons keys values .nil
  | cons entry entries inductionHypothesis =>
      cases alike with
      | cons present before rest =>
          rw [Entries.put, Entries.put, present.sameKey_eq keys]
          split
          · exact .cons present values rest
          · exact .cons present before (inductionHypothesis rest)

theorem overlay {upper upper' : Entries} (alike : entries.Alike entries') (uppers : upper.Alike upper') :
    (Entries.overlay entries upper).Alike (Entries.overlay entries' upper') := by
  -- The entries of the upper mapping are put into the lower one from the front.
  induction upper generalizing upper' entries entries' with
  | nil =>
      cases uppers
      exact alike
  | cons entry upper inductionHypothesis =>
      cases uppers with
      | cons keys values rest =>
          have merged := inductionHypothesis (alike.put keys values) rest
          exact merged

end Entries.Alike

/-! ## Properties -/

theorem Value.Alike.index?_eq {value value' : Value} (alike : value.Alike value') :
    value.index? = value'.index? := by
  cases alike <;> rfl

theorem Value.AllAlike.itemAt {items items' : List Value} (alike : Value.AllAlike items items')
    (index : Int) : (Folio.itemAt items index).Alike (Folio.itemAt items' index) := by
  have atPlace : ∀ place : Int, (if place < 0 then .null else items.getD place.toNat .null).Alike
      (if place < 0 then .null else items'.getD place.toNat .null) := by
    intro place
    split
    · exact .null
    · exact alike.getD _
  unfold Folio.itemAt
  rw [alike.length_eq]
  exact atPlace _

theorem sequenceProperty_alike {items items' : List Value} {segment segment' : Value}
    (alike : Value.AllAlike items items') (segments : segment.Alike segment') :
    Outcome.Rel Value.Alike (sequenceProperty items segment) (sequenceProperty items' segment') := by
  unfold sequenceProperty
  rw [segments.index?_eq]
  refine .bind (.of_eq rfl) ?_
  rintro index _ rfl
  cases index with
  | some index => exact .ok (alike.itemAt index)
  | none =>
      cases segments with
      | str name =>
          dsimp only
          rw [alike.length_eq]
          exact .ok (.refl _)
      | _ => exact .ok .null

/-- What a mapping has for a segment that may be a key: under the segment itself, or else under its name. -/
theorem keyed_alike {part part' found found' : Option Value} {named named' : Except Mishap Value} :
    Option.Rel Value.Alike part part' → Option.Rel Value.Alike found found' →
      Outcome.Rel Value.Alike named named' →
        Outcome.Rel Value.Alike
          (match part with
          | some part => .error (.unkeyable part.kindName)
          | none => match found with
            | some value => .ok value
            | none => named)
          (match part' with
          | some part => .error (.unkeyable part.kindName)
          | none => match found' with
            | some value => .ok value
            | none => named') := by
  intro parts values byName
  cases parts with
  | some parts =>
      dsimp only
      rw [parts.kindName_eq]
      exact .error _
  | none =>
      cases values with
      | some values => exact .ok values
      | none => exact byName

theorem mapProperty_alike {entries entries' : Entries} {segment segment' : Value}
    (alike : entries.Alike entries') (segments : segment.Alike segment') :
    Outcome.Rel Value.Alike (mapProperty entries segment) (mapProperty entries' segment') := by
  have unkeyable := segments.unkeyable?
  have isFound := alike.at? segments
  have byName : Outcome.Rel Value.Alike
      (do return (entries.named? (← segment.spelled)).getD .null)
      (do return (entries'.named? (← segment'.spelled)).getD .null) := by
    rw [segments.spelled_eq]
    refine .bind (.of_eq rfl) ?_
    rintro name _ rfl
    exact .ok (optional_getD (alike.at? (.str name)))
  cases segments with
  | list items => exact .ok .null
  | map entries => exact .ok .null
  | _ => exact keyed_alike unkeyable isFound byName

theorem Value.Alike.method?_eq {value value' : Value} (alike : value.Alike value') (name : String) :
    value.method? name = value'.method? name := by
  cases alike <;> rfl

/-- Parts under public names are alike; under private names nothing is said. -/
theorem Value.Alike.part? {value value' : Value} (alike : value.Alike value') {name : String}
    (isPublic : isPublicName name = true) :
    Option.Rel Value.Alike (value.part? name) (value'.part? name) := by
  cases alike with
  | @object attributes attributes' present alike =>
      have isPresent := present name isPublic
      change Option.Rel _ (attributeAmong? attributes name) (attributeAmong? attributes' name)
      cases found : attributeAmong? attributes name with
      | none =>
          cases found' : attributeAmong? attributes' name with
          | none => exact .none
          | some value' =>
              rw [found, found'] at isPresent
              cases isPresent
      | some value =>
          cases found' : attributeAmong? attributes' name with
          | none =>
              rw [found, found'] at isPresent
              cases isPresent
          | some value' => exact .some (alike name value value' isPublic found found')
  | _ => exact optional_refl _

theorem Value.Alike.attribute? {value value' : Value} (alike : value.Alike value') {name : String}
    (isPublic : isPublicName name = true) :
    Option.Rel Value.Alike (value.attribute? name) (value'.attribute? name) := by
  unfold Value.attribute?
  rw [alike.method?_eq name]
  exact optional_or (alike.part? isPublic) (optional_refl _)

theorem attributeProperty_alike {value value' segment segment' : Value} (alike : value.Alike value')
    (segments : segment.Alike segment') :
    Outcome.Rel Value.Alike (attributeProperty value segment) (attributeProperty value' segment') := by
  unfold attributeProperty
  rw [segments.spelled_eq]
  refine .bind (.of_eq rfl) ?_
  rintro name _ rfl
  split
  · exact .ok (optional_getD (alike.attribute? ‹_›))
  · exact .ok .null

/-- One segment finds alike properties in alike values. -/
theorem Value.Alike.property {value value' segment segment' : Value} (alike : value.Alike value')
    (segments : segment.Alike segment') :
    Outcome.Rel Value.Alike (value.property segment) (value'.property segment') := by
  have ofAttribute := attributeProperty_alike alike segments
  cases alike with
  | null => exact .ok .null
  | str text =>
      cases segments with
      | str name => exact .ok (.refl _)
      | _ => exact .ok .null
  | list items =>
      have ofSequence := sequenceProperty_alike items segments
      cases segments with
      | null => exact .ok .null
      | _ => exact ofSequence
  | tuple items =>
      have ofSequence := sequenceProperty_alike items segments
      cases segments with
      | null => exact .ok .null
      | _ => exact ofSequence
  | map entries =>
      have ofMap := mapProperty_alike entries segments
      cases segments with
      | null => exact .ok .null
      | _ => exact ofMap
  | _ =>
      cases segments with
      | null => exact .ok .null
      | _ => exact ofAttribute

end Folio
