import Folio.Value.Basic

/-!
Contract: what mappings have under names.

Owns: rows of entries without repeated keys; that what is found under a name does not depend on their order; and
what is found there once an entry has been put into a mapping, or all entries of another mapping over it.

Does not own: keys that are no names. Numbers and truth values may be the same key without being the same.
-/

namespace Folio

/-! ## Names as keys -/

/-- Only the name itself is the same key as a name. -/
theorem Value.sameKey_name {key : Value} {name : String} :
    key.sameKey (.str name) = true ↔ key = .str name := by
  cases key with
  | str text =>
      show (text == name) = true ↔ _
      rw [beq_iff_eq, Value.str.injEq]
  | _ =>
      constructor
      · intro same
        cases same
      · intro isName
        cases isName

theorem Value.name_sameKey {key : Value} {name : String} :
    (Value.str name).sameKey key = true ↔ key = .str name := by
  cases key with
  | str text =>
      show (name == text) = true ↔ _
      rw [beq_iff_eq, Value.str.injEq]
      exact eq_comm
  | _ =>
      constructor
      · intro same
        cases same
      · intro isName
        cases isName

namespace Entries

/-- No key stands twice in a row of entries. -/
def IsMapping (entries : Entries) : Prop :=
  entries.Pairwise fun entry later => entry.1.sameKey later.1 = false

instance (entries : Entries) : Decidable entries.IsMapping :=
  inferInstanceAs (Decidable (entries.Pairwise _))

theorem at?_cons (key value : Value) (entries : Entries) (wanted : Value) :
    at? ((key, value) :: entries) wanted =
      if key.sameKey wanted then some value else entries.at? wanted := rfl

/-- What is put under a name is found there, and nothing else changes. -/
theorem at?_put (entries : Entries) (key value : Value) (name : String) :
    (entries.put key value).at? (.str name) =
      if key.sameKey (.str name) then some value else entries.at? (.str name) := by
  induction entries with
  | nil => rfl
  | cons entry entries inductionHypothesis =>
      obtain ⟨present, before⟩ := entry
      rw [put]
      -- The present key stays. It is not the new one only among numbers and truth values, so under no name.
      by_cases same : present.sameKey key = true
      · rw [if_pos same, at?_cons, at?_cons]
        by_cases isName : key.sameKey (.str name) = true
        · obtain rfl := Value.sameKey_name.1 isName
          rw [if_pos isName, if_pos same]
        · have notPresent : ¬present.sameKey (.str name) = true := by
            intro isPresent
            obtain rfl := Value.sameKey_name.1 isPresent
            exact isName (Value.sameKey_name.2 (Value.name_sameKey.1 same))
          rw [if_neg isName, if_neg notPresent, if_neg notPresent]
      · rw [if_neg same, at?_cons, at?_cons, inductionHypothesis]
        by_cases isPresent : present.sameKey (.str name) = true
        · have notName : ¬key.sameKey (.str name) = true := by
            intro isName
            obtain rfl := Value.sameKey_name.1 isName
            exact same isPresent
          rw [if_pos isPresent, if_pos isPresent, if_neg notName]
        · rw [if_neg isPresent, if_neg isPresent]

/-- A name that stands in front stands nowhere behind. -/
theorem at?_eq_none {entries : Entries} {name : String}
    (absent : ∀ entry ∈ entries, (Value.str name).sameKey entry.1 = false) :
    entries.at? (.str name) = none := by
  induction entries with
  | nil => rfl
  | cons entry entries inductionHypothesis =>
      obtain ⟨key, value⟩ := entry
      obtain ⟨notFirst, behind⟩ := List.forall_mem_cons.1 absent
      have notName : ¬key.sameKey (.str name) = true := by
        intro isName
        rw [Value.name_sameKey.2 (Value.sameKey_name.1 isName)] at notFirst
        cases notFirst
      rw [at?_cons, if_neg notName]
      exact inductionHypothesis behind

/-- No name stands twice in a row of entries, in whichever order. -/
def NamesOnce (entries : Entries) : Prop :=
  entries.Pairwise fun entry other => ∀ name, entry.1 = .str name → other.1 ≠ .str name

theorem IsMapping.namesOnce {entries : Entries} (isMapping : entries.IsMapping) : entries.NamesOnce := by
  refine isMapping.imp fun distinct name isName isSame => ?_
  rw [isName, Value.name_sameKey.2 isSame] at distinct
  cases distinct

theorem NamesOnce.perm {entries reordered : Entries} (once : entries.NamesOnce) (order : reordered.Perm entries) :
    reordered.NamesOnce := by
  refine order.symm.pairwise once fun apart name isName isSame => ?_
  exact apart name isSame isName

/-- Under a name stands the value of its one entry. -/
theorem named?_eq_some_iff {entries : Entries} (once : entries.NamesOnce) {name : String} {value : Value} :
    entries.named? name = some value ↔ (.str name, value) ∈ entries := by
  induction entries with
  | nil => simp [named?, at?]
  | cons entry entries inductionHypothesis =>
      obtain ⟨key, first⟩ := entry
      obtain ⟨apart, once⟩ := List.pairwise_cons.1 once
      rw [named?, at?_cons, List.mem_cons]
      by_cases isName : key.sameKey (.str name) = true
      · obtain rfl := Value.sameKey_name.1 isName
        have notBehind : (.str name, value) ∉ entries := fun behind => apart _ behind name rfl rfl
        simp [isName, notBehind, eq_comm]
      · have notFirst : (Value.str name, value) ≠ (key, first) := by
          intro same
          exact isName (Value.sameKey_name.2 (congrArg Prod.fst same).symm)
        rw [if_neg isName, ← named?, inductionHypothesis once]
        simp [notFirst]

/-- What stands under a name stands there in every order of the entries. -/
theorem named?_perm {entries reordered : Entries} (once : entries.NamesOnce) (order : reordered.Perm entries)
    (name : String) : reordered.named? name = entries.named? name := by
  refine Option.ext fun value => ?_
  rw [named?_eq_some_iff (once.perm order), named?_eq_some_iff once, order.mem_iff]

/-- Under a name the upper mapping comes first, also where it has `null` there. -/
theorem at?_overlay (lower : Entries) {upper : Entries} (isMapping : upper.IsMapping) (name : String) :
    (overlay lower upper).at? (.str name) = (upper.at? (.str name)).or (lower.at? (.str name)) := by
  -- The entries of the upper mapping are put into the lower one from the front.
  induction upper generalizing lower with
  | nil => rfl
  | cons entry upper inductionHypothesis =>
      obtain ⟨key, value⟩ := entry
      obtain ⟨distinct, isMapping⟩ := List.pairwise_cons.1 isMapping
      have later : overlay lower ((key, value) :: upper) = overlay (lower.put key value) upper := rfl
      rw [later, inductionHypothesis _ isMapping, at?_put, at?_cons]
      by_cases isName : key.sameKey (.str name) = true
      · obtain rfl := Value.sameKey_name.1 isName
        rw [if_pos isName, if_pos isName, at?_eq_none distinct]
        rfl
      · rw [if_neg isName, if_neg isName]

end Entries

end Folio
