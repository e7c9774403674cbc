import Folio.Proofs.Render.Repetition
import Folio.Proofs.Settings
import Folio.Proofs.Template.Showing

/-!
Contract: the bindings of repeated templates.

Owns: the bindings that a call of `forEach` leads to, given or from the settings; and what comes to be, for each of
them, of the template that shows the binding: the value, the text of a keyword, or an error of the template.

Does not own: reading the template.
-/

namespace Folio

open Folio.Text Folio.Template

namespace Composer

/-! ## Accepted bindings -/

/-- What is given behind the collection in a call of `forEach`, with the binding of the call: a name that the filter
accepts, or nothing, for the binding of settings that were accepted. -/
inductive AcceptsBinding (composer : Composer) : List Value → String → Prop where
  | named {binding : String} (accepted : bindingArgument (.str binding) = .ok (some binding)) :
      AcceptsBinding composer [.str binding] binding
  | unnamed {given : List Value} (nothing : given = [] ∨ given = [.null]) {entries : Entries} {source : String}
      {settings : Settings} (accepted : Settings.ofEntries entries source = .ok settings)
      (isBinding : composer.settings.defaultBinding = settings.defaultBinding) :
      AcceptsBinding composer given settings.defaultBinding

theorem isIdentifier_of_bindingArgument {binding : String}
    (accepted : bindingArgument (.str binding) = .ok (some binding)) : isIdentifier binding = true := by
  cases isName : isIdentifier binding with
  | true => rfl
  | false =>
      rw [bindingArgument, isName] at accepted
      cases accepted

/-- A name that may be one is taken as it is. -/
theorem boundName_of_isIdentifier {binding : String} (isName : isIdentifier binding = true) (default : String) :
    boundName default (some binding) = binding := by
  have notEmpty : ¬(binding == "") = true := by
    intro isEmpty
    rw [eq_of_beq isEmpty] at isName
    cases isName
  rw [boundName, if_neg notEmpty]

theorem isIdentifier_of_ofEntries {entries : Entries} {source : String} {settings : Settings}
    (accepted : Settings.ofEntries entries source = .ok settings) :
    isIdentifier settings.defaultBinding = true :=
  (Settings.ofEntries_eq_ok_iff.1 accepted).2.2.binding

namespace AcceptsBinding

variable {composer : Composer} {given : List Value} {binding : String}

theorem isIdentifier (accepts : composer.AcceptsBinding given binding) : Text.isIdentifier binding = true := by
  cases accepts with
  | named accepted => exact isIdentifier_of_bindingArgument accepted
  | unnamed _ accepted => exact isIdentifier_of_ofEntries accepted

/-- The call has at most one argument more, which names the binding or leaves it to the settings. -/
theorem argument (accepts : composer.AcceptsBinding given binding) :
    given.length ≤ 1 ∧ ∃ named, bindingArgument (given.headD .null) = .ok named ∧
      boundName composer.settings.defaultBinding named = binding := by
  cases accepts with
  | named accepted =>
      have isBound := boundName_of_isIdentifier (isIdentifier_of_bindingArgument accepted)
      exact ⟨Nat.le_refl 1, some binding, accepted, isBound composer.settings.defaultBinding⟩
  | unnamed nothing _ isBinding =>
      rcases nothing with rfl | rfl
      · exact ⟨Nat.zero_le 1, none, rfl, isBinding⟩
      · exact ⟨Nat.le_refl 1, none, rfl, isBinding⟩

end AcceptsBinding

/-! ## One name -/

/-- What a name stands for that is bound to a value: a keyword is not looked up. -/
def shownValue (name : String) (value : Value) : Value :=
  match keyword? name with
  | some literal => literal.toValue
  | none => value

theorem evaluatePipeline_nameExpr (call : FilterCall) {name : String} {value : Value} {session : Session}
    (bound : session.scope.resolve name = some value) :
    evaluatePipeline call ⟨nameExpr name, []⟩ session = (.ok (shownValue name value), session) := by
  unfold nameExpr shownValue
  cases keyword? name with
  | some literal => rfl
  | none =>
      simp only [evaluatePipeline, evaluate, runStages, followSegments, Work.bind_apply, Work.pure_apply,
        Render.resolve, bound]

/-- Keywords are names of expressions, and have a text. -/
theorem text_of_keyword {name : String} {literal : Literal} (isKeyword : keyword? name = some literal) :
    isName name = true ∧ ∃ text, literal.toValue.text = .ok text := by
  unfold keyword? at isKeyword
  repeat' split at isKeyword
  all_goals cases isKeyword
  all_goals
    rename_i isText
    rw [eq_of_beq isText]
    exact ⟨by decide, _, rfl⟩

/-! ## One round -/

/-- What a call of `forEach` comes to over one value, with the template that shows the binding. -/
def shownBinding (composer : Composer) (scope : Scope) (given : List Value) (binding : String) (cache : Cache)
    (value : Value) : Except Fault Value :=
  (composer.call (composer.below (composer.levelsBelow scope)) forEachName (.str (showing binding))
    (.list [value] :: given) ⟨scope, cache⟩).1

section Round

variable {composer : Composer}
  (isForEach : composer.registry.find? forEachName = FilterRegistry.standard.find? forEachName) {scope : Scope}
  (room : scope.nesting < composer.settings.maxDepth) {given : List Value} {binding : String}
  (accepts : composer.AcceptsBinding given binding) {cache : Cache}
  (known : (inlineNodes (showing binding) cache).1 = parseTemplate (showing binding))

theorem renderEach_nameExpr (below : Below) (binding source : String) (line column : Int) (value : Value)
    (session : Session) :
    (renderEach (composer.renderRow below) binding [.expression ⟨nameExpr binding, []⟩ source line column] [value]
      session).1 = (shownValue binding value).text.mapError .mishap := by
  have bound : (session.scope.enter [(.str binding, value)] (repeatLabel binding)).2.resolve binding = some value := by
    rw [Scope.resolve_enter, Entries.at?_cons, if_pos (Value.name_sameKey.2 rfl)]
    rfl
  simp only [renderEach, renderRow, renderNode, Work.bind_apply, Render.inChild_apply,
    @evaluatePipeline_nameExpr _ binding value ⟨_, session.cache⟩ bound]
  cases (shownValue binding value).text with
  | error cause => rfl
  | ok text =>
      show Except.ok (text ++ "" ++ "") = .ok text
      rw [String.append_empty, String.append_empty]

include isForEach room accepts known

/-- The call comes to the one round, if the template can be read. -/
theorem shownBinding_eq (value : Value) :
    ∃ level, composer.shownBinding scope given binding cache value =
      ((parseTemplate (showing binding) >>= fun nodes =>
        (renderEach (composer.renderRow (composer.below level)) binding nodes [value]
          ⟨scope, (inlineNodes (showing binding) cache).2⟩).1).map .str).mapError (blame forEachName) := by
  obtain ⟨few, named, isNamed, isBinding⟩ := accepts.argument
  obtain ⟨level, levels⟩ : ∃ level, composer.levelsBelow scope = level + 1 := by
    refine Nat.exists_eq_succ_of_ne_zero ?_
    unfold levelsBelow
    omega
  refine ⟨level, ?_⟩
  have repeated := repeatedText_list levels (showing binding) [value] named cache
  rw [known, isBinding] at repeated
  rw [← repeated, shownBinding, call_forEach isForEach _ _ _ few isNamed, Work.rename_apply, Work.bind_apply]
  unfold repeatedText inside inScope
  dsimp only
  rcases composer.repeatTemplate (composer.below (composer.levelsBelow scope)) (showing binding) (.list [value])
    named ⟨scope, cache⟩ with ⟨outcome, after⟩
  cases outcome with
  | ok text => rfl
  | error fault => rfl

theorem shownBinding_of_name (isShown : isName binding = true) {value : Value} {text : String}
    (isText : (shownValue binding value).text = .ok text) :
    composer.shownBinding scope given binding cache value = .ok (.str text) := by
  obtain ⟨level, isOutcome⟩ := shownBinding_eq isForEach room accepts known value
  rw [isOutcome, parseTemplate_showing_name accepts.isIdentifier isShown]
  show ((renderEach _ binding _ [value] _).1.map Value.str).mapError _ = _
  rw [renderEach_nameExpr, isText]
  rfl

theorem shownBinding_of_stray (notShown : isName binding = false) :
    ∃ error, ∀ value, composer.shownBinding scope given binding cache value = .error (.malformed error) := by
  obtain ⟨error, failed⟩ := parseTemplate_showing_stray accepts.isIdentifier notShown
  refine ⟨error, fun value => ?_⟩
  obtain ⟨level, isOutcome⟩ := shownBinding_eq isForEach room accepts known value
  rw [isOutcome, failed]
  rfl

end Round

/-- What becomes of the binding of a repetition in the template that shows it. A binding that the filter accepts, or
that comes from accepted settings, is shown for every value exactly if it is a name of expressions and no keyword. A
keyword shows its own text, whatever the value; any other binding makes the template malformed. -/
theorem accepted_binding_is_shown {composer : Composer}
    (isForEach : composer.registry.find? forEachName = FilterRegistry.standard.find? forEachName) {scope : Scope}
    (room : scope.nesting < composer.settings.maxDepth) {given : List Value} {binding : String}
    (accepts : composer.AcceptsBinding given binding) {cache : Cache}
    (known : (inlineNodes (showing binding) cache).1 = parseTemplate (showing binding)) :
    let shown (text : String) := (composer.call (composer.below (composer.levelsBelow scope)) forEachName
      (.str (showing binding)) (.list [.str text] :: given) ⟨scope, cache⟩).1
    ((∀ text, shown text = .ok (.str text)) ↔ isName binding = true ∧ keyword? binding = none) ∧
      (∀ literal, keyword? binding = some literal →
        ∃ fixed, literal.toValue.text = .ok fixed ∧ ∀ text, shown text = .ok (.str fixed)) ∧
        (isName binding = false → ∃ error, ∀ text, shown text = .error (.malformed error)) := by
  intro shown
  have ofKeyword : ∀ literal, keyword? binding = some literal →
      ∃ fixed, literal.toValue.text = .ok fixed ∧ ∀ text, shown text = .ok (.str fixed) := by
    intro literal isKeyword
    obtain ⟨isShown, fixed, isFixed⟩ := text_of_keyword isKeyword
    refine ⟨fixed, isFixed, fun text => ?_⟩
    refine shownBinding_of_name isForEach room accepts known isShown ?_
    rw [shownValue, isKeyword, isFixed]
  have ofStray : isName binding = false → ∃ error, ∀ text, shown text = .error (.malformed error) := by
    intro notShown
    obtain ⟨error, failed⟩ := shownBinding_of_stray isForEach room accepts known notShown
    exact ⟨error, fun text => failed (.str text)⟩
  refine ⟨⟨fun all => ?_, ?_⟩, ofKeyword, ofStray⟩
  · cases isShown : isName binding with
    | false =>
        obtain ⟨error, failed⟩ := ofStray isShown
        cases (all "").symm.trans (failed "")
    | true =>
        refine ⟨rfl, ?_⟩
        cases isKeyword : keyword? binding with
        | none => rfl
        | some literal =>
            -- The text of the keyword would be every text, and so both of two different ones.
            obtain ⟨fixed, -, same⟩ := ofKeyword literal isKeyword
            have isEmpty := (all "").symm.trans (same "")
            have isOther := (all "a").symm.trans (same "a")
            exact absurd (isEmpty.trans isOther.symm) (by simp)
  · rintro ⟨isShown, noKeyword⟩ text
    refine shownBinding_of_name isForEach room accepts known isShown ?_
    rw [shownValue, noKeyword]
    rfl

/-- The law for a name that is given, in a scope that binds the same name already, and for the binding of settings
that were accepted. -/
theorem accepted_binding_is_shown_in_loop :
    let settings : Settings := ⟨".html", "_layout", 64, "item_1", []⟩
    let composer : Composer := ⟨settings, ⟨.memory [], ".html"⟩, .standard⟩
    let scope : Scope := ((Scope.ofRoot [] "context").enter [(.str "row", .int 1)] "forEach:row").2
    let call := composer.call (composer.below (composer.levelsBelow scope)) forEachName
    (∀ text, (call (.str (showing "row")) [.list [.str text], .str "row"] ⟨scope, .empty⟩).1 = .ok (.str text)) ∧
      ∀ text, (call (.str (showing "item_1")) [.list [.str text]] ⟨scope, .empty⟩).1 = .ok (.str text) := by
  intro settings composer scope call
  have known : ∀ text, (inlineNodes text .empty).1 = parseTemplate text := fun text => inlineNodes_result text .empty
  have room : (scope.nesting : Int) < composer.settings.maxDepth := by decide
  have isRow : composer.AcceptsBinding [.str "row"] "row" := .named rfl
  have isDefault : composer.AcceptsBinding [] "item_1" := by
    have checked : settings.check "<dict>" = .ok settings := by
      rw [Settings.check, if_neg (by decide), if_neg (by decide), if_neg (by decide +kernel)]
    have fits : List.forM [(.str "default_binding", .str "item_1")] (Settings.checkEntry "<dict>") = .ok () := rfl
    have isKnown : Settings.ofKnown [(.str "default_binding", .str "item_1")] = settings := by rfl
    have accepted : Settings.ofEntries [(.str "default_binding", .str "item_1")] "<dict>" = .ok settings := by
      rw [Settings.ofEntries, fits, isKnown]
      exact checked
    exact .unnamed (.inl rfl) accepted rfl
  constructor
  · exact (accepted_binding_is_shown rfl room isRow (known _)).1.2 ⟨by decide, by decide⟩
  · exact (accepted_binding_is_shown rfl room isDefault (known _)).1.2 ⟨by decide, by decide⟩

/-- A keyword and a name in another script are accepted, though the one shows the text of the keyword and the other
makes the template malformed. -/
theorem accepted_binding_is_not_shown :
    let composer : Composer := ⟨.default, ⟨.memory [], ".html"⟩, .standard⟩
    let session : Session := ⟨.ofRoot [] "context", .empty⟩
    let shown (binding : String) := (composer.call (composer.below (composer.levelsBelow session.scope)) forEachName
      (.str (showing binding)) [.list [.str "a"], .str binding] session).1
    bindingArgument (.str "true") = .ok (some "true") ∧ shown "true" = .ok (.str "true") ∧
      bindingArgument (.str "имя") = .ok (some "имя") ∧
        shown "имя" = .error (.malformed ⟨.unexpectedChar 'и', ⟨3, 1, 4⟩, none⟩) := by
  intro composer session shown
  have known : (inlineNodes (showing "true") .empty).1 = parseTemplate (showing "true") :=
    inlineNodes_result (showing "true") .empty
  have keyword : shown "true" = .ok (.str "true") :=
    @shownBinding_of_name composer rfl session.scope (by decide) _ "true" (.named rfl) .empty known (by decide)
      (.str "a") "true" rfl
  refine ⟨rfl, keyword, by decide +kernel, ?_⟩
  have fails : (shown "имя").map (fun _ => ()) = .error (.malformed ⟨.unexpectedChar 'и', ⟨3, 1, 4⟩, none⟩) := by
    decide +kernel
  exact map_eq_error.1 fails

end Composer

end Folio
