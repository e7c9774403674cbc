import Folio.Proofs.Value.Entries
import Folio.Proofs.Value.Property
import Folio.Settings

/-!
Contract: the settings that a mapping stands for.

Owns: the entries that fit, the form of accepted settings, and that a mapping stands for settings of this form or is
refused as settings are, but for a key that is to be named and has no text; that the order of the entries does not
matter; and that settings written as a mapping stand for themselves.

Does not own: settings files.
-/

namespace Folio

open Folio.Text Folio.Number

namespace Settings

/-! ## Entries -/

/-- A known key with a value of the kind that belongs to it. -/
def Fits (entry : Value × Value) : Prop :=
  expectedKind? entry.1 = some entry.2.kindName

instance (entry : Value × Value) : Decidable (Fits entry) :=
  inferInstanceAs (Decidable (_ = _))

/-- Only names are known keys. -/
theorem exists_name_of_expectedKind? {key : Value} {kind : String} (known : expectedKind? key = some kind) :
    ∃ name, key = .str name := by
  cases key with
  | str name => exact ⟨name, rfl⟩
  | _ => cases known

theorem checkEntry_eq_ok_iff {source : String} {entry : Value × Value} :
    checkEntry source entry = .ok () ↔ Fits entry := by
  obtain ⟨key, value⟩ := entry
  unfold Fits
  constructor
  · intro passes
    obtain ⟨text, -, passes⟩ := bind_eq_ok.1 passes
    split at passes
    · cases passes
    · rename_i expected known
      split at passes
      · rename_i isKind
        exact known.trans (congrArg some isKind.symm)
      · cases passes
  · intro fits
    obtain ⟨name, rfl⟩ := exists_name_of_expectedKind? fits
    refine bind_eq_ok.2 ⟨name, rfl, ?_⟩
    dsimp only at fits ⊢
    rw [fits]
    exact if_pos rfl

/-- An entry is refused as settings are, or its key has no text. -/
theorem checkEntry_eq_error {source : String} {entry : Value × Value} {fault : Fault}
    (failed : checkEntry source entry = .error fault) :
    (∃ error, fault = .settings error) ∨ ∃ cause, entry.1.spelled = .error cause ∧ fault = .mishap cause := by
  rcases bind_eq_error.1 failed with failed | ⟨key, -, failed⟩
  · obtain ⟨cause, unspelled, rfl⟩ := mapError_eq_error.1 failed
    exact .inr ⟨cause, unspelled, rfl⟩
  · split at failed
    · cases failed
      exact .inl ⟨_, rfl⟩
    · split at failed
      · cases failed
      · cases failed
        exact .inl ⟨_, rfl⟩

theorem checkEntry_eq_mishap {source : String} {entry : Value × Value} {cause : Mishap} :
    checkEntry source entry = .error (.mishap cause) ↔ entry.1.spelled = .error cause := by
  constructor
  · intro failed
    rcases checkEntry_eq_error failed with ⟨error, isSettings⟩ | ⟨cause', unspelled, same⟩
    · cases isSettings
    · cases same
      exact unspelled
  · intro unspelled
    exact bind_eq_error.2 (.inl (mapError_eq_error.2 ⟨cause, unspelled, rfl⟩))

theorem check_eq_error {settings : Settings} {source : String} {fault : Fault}
    (failed : settings.check source = .error fault) : ∃ error, fault = .settings error := by
  unfold check at failed
  split at failed
  · cases failed
    exact ⟨_, rfl⟩
  · split at failed
    · cases failed
      exact ⟨_, rfl⟩
    · split at failed
      · cases failed
        exact ⟨_, rfl⟩
      · cases failed

/-- A mapping is refused as settings are, or the first of its keys that is not known has no text. -/
theorem ofEntries_eq_error {entries : Entries} {source : String} {fault : Fault}
    (failed : ofEntries entries source = .error fault) :
    (∃ error, fault = .settings error) ∨ ∃ front entry back cause, entries = front ++ entry :: back ∧
      (∀ known ∈ front, checkEntry source known = .ok ()) ∧ entry.1.spelled = .error cause ∧
      fault = .mishap cause := by
  rcases bind_eq_error.1 failed with unchecked | ⟨_, -, failed⟩
  · obtain ⟨front, entry, back, isRow, known, unchecked⟩ := forM_eq_error.1 unchecked
    rcases checkEntry_eq_error unchecked with isSettings | ⟨cause, unspelled, rfl⟩
    · exact .inl isSettings
    · exact .inr ⟨front, entry, back, cause, isRow, known, unspelled, rfl⟩
  · exact .inl (check_eq_error failed)

/-- The first entry that does not fit has a key without a text. -/
def LacksText (entries : Entries) : Prop :=
  ∃ front entry back, entries = front ++ entry :: back ∧ (∀ known ∈ front, Fits known) ∧
    entry.1.isWritable = false

theorem lacksText_cons {key : Value} (unwritable : key.isWritable = false) (value : Value) (others : Entries) :
    LacksText ((key, value) :: others) :=
  ⟨[], (key, value), others, rfl, fun _ inside => absurd inside List.not_mem_nil, unwritable⟩

/-- The least whole number with too many digits. -/
def longKey : Value := .int (10 ^ digitLimit : Nat)

theorem isWritable_longKey : longKey.isWritable = false :=
  Value.isWritable_int_eq_false (le_of_eq rfl)

/-- A mapping fails, rather than being refused, just where a key lacks the text that it would be refused with. -/
theorem ofEntries_eq_mishap_iff {entries : Entries} {source : String} {cause : Mishap} :
    ofEntries entries source = .error (.mishap cause) ↔
      LacksText entries ∧ cause = .numeral .tooLongToWrite := by
  constructor
  · intro failed
    rcases ofEntries_eq_error failed with ⟨error, isSettings⟩ | ⟨front, entry, back, _, isRow, known, unspelled, same⟩
    · cases isSettings
    · cases same
      obtain ⟨unwritable, isNumeral⟩ := Value.spelled_eq_error_iff.1 unspelled
      exact ⟨⟨front, entry, back, isRow, fun other inside => checkEntry_eq_ok_iff.1 (known other inside), unwritable⟩,
        isNumeral⟩
  · rintro ⟨⟨front, entry, back, isRow, fits, unwritable⟩, isNumeral⟩
    have unspelled : entry.1.spelled = .error cause := Value.spelled_eq_error_iff.2 ⟨unwritable, isNumeral⟩
    refine bind_eq_error.2 (.inl (forM_eq_error.2 ⟨front, entry, back, isRow, ?_, checkEntry_eq_mishap.2 unspelled⟩))
    exact fun other inside => checkEntry_eq_ok_iff.2 (fits other inside)

/-! ## The form of settings -/

/-- Nothing, or a text that starts with a point. -/
def IsExtension (text : String) : Prop :=
  text = "" ∨ ∃ behind, text = "." ++ behind

/-- The form of settings that are accepted. -/
structure IsNormal (settings : Settings) : Prop where
  extension : IsExtension settings.pageExtension
  positive : 1 ≤ settings.maxDepth
  limited : settings.maxDepth ≤ depthLimit
  binding : isIdentifier settings.defaultBinding = true

theorem isExtension_withPoint (extension : String) : IsExtension (withPoint extension) := by
  unfold withPoint
  split
  · rename_i isEmpty
    exact .inl (String.toList_eq_nil_iff.1 isEmpty)
  · rename_i first behind isText
    split
    · rename_i isPoint
      refine .inr ⟨String.ofList behind, ?_⟩
      rw [← extension.ofList_toList, isText, isPoint]
      exact String.ofList_cons
    · exact .inr ⟨extension, rfl⟩

/-- An extension of this form stays as it is. -/
theorem withPoint_of_isExtension {extension : String} (isExtension : IsExtension extension) :
    withPoint extension = extension := by
  rcases isExtension with rfl | ⟨behind, rfl⟩
  · rfl
  · unfold withPoint
    simp

/-- With an extension in its form, settings pass the check just if they have theirs, and stay as they are. -/
theorem check_eq_ok_iff {settings checked : Settings} {source : String}
    (extension : IsExtension settings.pageExtension) :
    settings.check source = .ok checked ↔ settings = checked ∧ settings.IsNormal := by
  unfold check
  constructor
  · intro passes
    split_ifs at passes with low high unnamed
    cases passes
    exact ⟨rfl, extension, by omega, by omega, by simpa using unnamed⟩
  · rintro ⟨rfl, normal⟩
    have positive := normal.positive
    have limited := normal.limited
    rw [if_neg (by omega), if_neg (by omega), if_neg (by simp [normal.binding])]

/-- A mapping stands for settings if all its entries fit and give settings of the right form. -/
theorem ofEntries_eq_ok_iff {entries : Entries} {source : String} {settings : Settings} :
    ofEntries entries source = .ok settings ↔
      (∀ entry ∈ entries, Fits entry) ∧ ofKnown entries = settings ∧ settings.IsNormal := by
  have extension : IsExtension (ofKnown entries).pageExtension := isExtension_withPoint _
  rw [ofEntries, bind_eq_ok]
  constructor
  · rintro ⟨⟨⟩, passes, checked⟩
    obtain ⟨rfl, normal⟩ := (check_eq_ok_iff extension).1 checked
    exact ⟨fun entry inside => checkEntry_eq_ok_iff.1 (forM_eq_ok.1 passes entry inside), rfl, normal⟩
  · rintro ⟨fits, rfl, normal⟩
    exact ⟨(), forM_eq_ok.2 fun entry inside => checkEntry_eq_ok_iff.2 (fits entry inside),
      (check_eq_ok_iff extension).2 ⟨rfl, normal⟩⟩

/-! ## Order -/

/-- The settings depend only on what the entries have under names. -/
theorem ofKnown_congr {entries other : Entries} (same : ∀ name, entries.named? name = other.named? name) :
    ofKnown entries = ofKnown other := by
  simp only [ofKnown, textUnder, depthUnder, entriesUnder, same]

theorem ofEntries_perm {entries reordered : Entries} (isMapping : entries.IsMapping)
    (order : reordered.Perm entries) {source : String} {settings : Settings} :
    ofEntries reordered source = .ok settings ↔ ofEntries entries source = .ok settings := by
  have known : ofKnown reordered = ofKnown entries := ofKnown_congr (Entries.named?_perm isMapping.namesOnce order)
  rw [ofEntries_eq_ok_iff, ofEntries_eq_ok_iff, known]
  simp only [order.mem_iff]

/-! ## Settings as a mapping -/

/-- The mapping with every setting under its key. -/
def asEntries (settings : Settings) : Entries :=
  [(.str pageExtensionKey, .str settings.pageExtension), (.str layoutNameKey, .str settings.layoutName),
    (.str maxDepthKey, .int settings.maxDepth), (.str defaultBindingKey, .str settings.defaultBinding),
    (.str argumentsKey, .map settings.arguments)]

theorem isMapping_asEntries (settings : Settings) : settings.asEntries.IsMapping := by
  have keys : (settings.asEntries.map Prod.fst).Pairwise fun key later => key.sameKey later = false := by
    show List.Pairwise _ [Value.str pageExtensionKey, .str layoutNameKey, .str maxDepthKey, .str defaultBindingKey,
      .str argumentsKey]
    decide
  exact List.pairwise_map.1 keys

theorem fits_asEntries (settings : Settings) : ∀ entry ∈ settings.asEntries, Fits entry := by
  simp only [asEntries, List.forall_mem_cons]
  exact ⟨rfl, rfl, rfl, rfl, rfl, fun _ inside => absurd inside List.not_mem_nil⟩

theorem ofKnown_asEntries {settings : Settings} (extension : IsExtension settings.pageExtension) :
    ofKnown settings.asEntries = settings := by
  have known : ofKnown settings.asEntries = { settings with pageExtension := withPoint settings.pageExtension } := rfl
  rw [known, withPoint_of_isExtension extension]

/-- Settings in their form stand for themselves, in whichever order they are written. -/
theorem ofEntries_of_written {settings : Settings} (normal : settings.IsNormal) {written : Entries}
    (order : written.Perm settings.asEntries) (source : String) : ofEntries written source = .ok settings := by
  rw [ofEntries_perm settings.isMapping_asEntries order]
  exact ofEntries_eq_ok_iff.2 ⟨settings.fits_asEntries, ofKnown_asEntries normal.extension, normal⟩

/-! ## The law -/

/-- A mapping stands for settings just if its keys are known, its values are of their kinds, and what they give has the
form of settings. Such settings written as a mapping stand for themselves. Any other mapping is refused as settings
are, unless the first of its entries that does not fit has a key without a text: just then the refusal is lost in the
failure to write a whole number. The order of the entries changes neither whether the mapping is accepted nor the
settings. -/
theorem ofEntries_yields_normal_settings {entries : Entries} (isMapping : entries.IsMapping) (source : String) :
    ((∃ settings, ofEntries entries source = .ok settings) ↔
      (∀ entry ∈ entries, Fits entry) ∧ (ofKnown entries).IsNormal) ∧
    (∀ settings, ofEntries entries source = .ok settings → settings.IsNormal ∧
      ∀ written other, written.Perm settings.asEntries → ofEntries written other = .ok settings) ∧
    (∀ fault, ofEntries entries source = .error fault →
      (∃ error, fault = .settings error) ∨ LacksText entries ∧ fault = .mishap (.numeral .tooLongToWrite)) ∧
    (LacksText entries → ofEntries entries source = .error (.mishap (.numeral .tooLongToWrite))) ∧
    ∀ reordered settings, reordered.Perm entries →
      (ofEntries reordered source = .ok settings ↔ ofEntries entries source = .ok settings) := by
  refine ⟨?_, ?_, ?_, ?_, ?_⟩
  · constructor
    · rintro ⟨settings, accepted⟩
      obtain ⟨fits, rfl, normal⟩ := ofEntries_eq_ok_iff.1 accepted
      exact ⟨fits, normal⟩
    · rintro ⟨fits, normal⟩
      exact ⟨ofKnown entries, ofEntries_eq_ok_iff.2 ⟨fits, rfl, normal⟩⟩
  · intro settings accepted
    have normal := (ofEntries_eq_ok_iff.1 accepted).2.2
    exact ⟨normal, fun written other order => ofEntries_of_written normal order other⟩
  · intro fault failed
    rcases ofEntries_eq_error failed with isSettings | ⟨_, _, _, cause, _, _, _, rfl⟩
    · exact .inl isSettings
    · obtain ⟨lacksText, rfl⟩ := ofEntries_eq_mishap_iff.1 failed
      exact .inr ⟨lacksText, rfl⟩
  · intro lacksText
    exact ofEntries_eq_mishap_iff.2 ⟨lacksText, rfl⟩
  · intro reordered settings order
    exact ofEntries_perm isMapping order

/-- Settings with some keys, and a mapping under a key of too many digits. -/
theorem ofEntries_yields_normal_settings_at_keys :
    let given : Entries := [(.str "max_depth", .int 3), (.str "page_extension", .str "md")]
    let settings : Settings := ⟨".md", "_layout", 3, "it", []⟩
    let long : Entries := [(longKey, .null)]
    (ofEntries given unnamedSource = .ok settings ∧ settings.IsNormal ∧
      ∀ written other, written.Perm settings.asEntries → ofEntries written other = .ok settings) ∧
    LacksText long ∧ ofEntries long unnamedSource = .error (.mishap (.numeral .tooLongToWrite)) := by
  intro given settings long
  have accepted : ofEntries given unnamedSource = .ok settings := by
    have normal : settings.IsNormal := ⟨.inr ⟨"md", rfl⟩, by decide, by decide, by decide +kernel⟩
    have extension : withPoint "md" = ".md" := by decide +kernel
    have known : ofKnown given = settings := by
      show Settings.mk (withPoint "md") _ _ _ _ = settings
      rw [extension]
      rfl
    exact ofEntries_eq_ok_iff.2 ⟨by decide, known, normal⟩
  have lacksText : LacksText long := lacksText_cons isWritable_longKey _ _
  have isMapping : given.IsMapping := by decide
  have longIsMapping : long.IsMapping := List.pairwise_singleton _ _
  obtain ⟨-, normal, -⟩ := ofEntries_yields_normal_settings isMapping unnamedSource
  obtain ⟨-, -, -, failed, -⟩ := ofEntries_yields_normal_settings longIsMapping unnamedSource
  exact ⟨⟨accepted, normal settings accepted⟩, lacksText, failed lacksText⟩

/-- A key of too many digits is neither known nor refused. -/
theorem long_key_is_not_refused :
    let entries : Entries := [(longKey, .null)]
    entries.IsMapping ∧ ofEntries entries unnamedSource = .error (.mishap (.numeral .tooLongToWrite)) ∧
      ¬(∃ settings, ofEntries entries unnamedSource = .ok settings) ∧
      ¬∃ error, ofEntries entries unnamedSource = .error (.settings error) := by
  intro entries
  have lacksText : LacksText entries := lacksText_cons isWritable_longKey _ _
  have failed : ofEntries entries unnamedSource = .error (.mishap (.numeral .tooLongToWrite)) :=
    ofEntries_eq_mishap_iff.2 ⟨lacksText, rfl⟩
  rw [failed]
  exact ⟨List.pairwise_singleton _ _, rfl, nofun, nofun⟩

end Settings

end Folio
