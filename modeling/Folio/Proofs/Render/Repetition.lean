import Folio.Proofs.Render.Congruence
import Folio.Proofs.Template.Quoting
import Folio.Proofs.Value.Entries
import Mathlib.Data.List.Forall2

/-!
Contract: a repeated template as the texts of its rounds.

Owns: what the rounds of a repetition come to when each round is known, up to the first that fails; that a
round is what the template comes to alone, where the value is one of its arguments, under the limit before;
and the law that a quoted text, repeated over a list, joins what the text gives for each value.

Does not own: how the quoted text is read.
-/

namespace Folio

open Folio.Template

namespace Composer

/-! ## Rounds -/

/-- The outcome of a round in a scope, from every cache of a kind. It leaves the scope as it is, and a cache
of this kind. -/
def RoundGives (render : List Node → Render String) (binding : String) (nodes : List Node) (scope : Scope)
    (reached : Cache → Prop) (value : Value) (outcome : Except Fault String) : Prop :=
  ∀ cache, reached cache → ∃ after,
    Render.inChild [(.str binding, value)] (repeatLabel binding) (render nodes) ⟨scope, cache⟩ =
        (outcome, ⟨scope, after⟩) ∧
      reached after

section Rounds

variable {render : List Node → Render String} {binding : String} {nodes : List Node} {scope : Scope}
  {reached : Cache → Prop} {values : List Value} {texts : List String} {cache : Cache}

/-- Where every round has a text, the repetition joins them in the order of the values. -/
theorem renderEach_texts
    (rounds : List.Forall₂
      (fun value text => RoundGives render binding nodes scope reached value (.ok text)) values texts)
    (isReached : reached cache) :
    ∃ after, renderEach render binding nodes values ⟨scope, cache⟩ =
        (.ok (String.join texts), ⟨scope, after⟩) ∧ reached after := by
  -- A round may fill the cache, so the next starts from another one of the same kind.
  induction rounds generalizing cache with
  | nil => exact ⟨cache, rfl, isReached⟩
  | cons round _ inductionHypothesis =>
      obtain ⟨between, isRound, reachedBetween⟩ := round cache isReached
      obtain ⟨after, areRest, reachedAfter⟩ := inductionHypothesis reachedBetween
      refine ⟨after, ?_, reachedAfter⟩
      rw [renderEach, Work.bind_apply, isRound]
      dsimp only
      rw [Work.bind_apply, areRest, String.join_cons]
      rfl

/-- The first round that fails ends the repetition with its fault. -/
theorem renderEach_fails {value : Value} {fault : Fault}
    (rounds : List.Forall₂
      (fun value text => RoundGives render binding nodes scope reached value (.ok text)) values texts)
    (failing : RoundGives render binding nodes scope reached value (.error fault)) (back : List Value)
    (isReached : reached cache) :
    (renderEach render binding nodes (values ++ value :: back) ⟨scope, cache⟩).1 = .error fault := by
  induction rounds generalizing cache with
  | nil =>
      obtain ⟨after, isRound, -⟩ := failing cache isReached
      rw [List.nil_append, renderEach, Work.bind_apply, isRound]
  | cons round _ inductionHypothesis =>
      obtain ⟨between, isRound, reachedBetween⟩ := round cache isReached
      have later := inductionHypothesis reachedBetween
      rw [List.cons_append, renderEach, Work.bind_apply, isRound]
      dsimp only
      rw [Work.bind_apply]
      rcases isLater : renderEach render binding nodes _ ⟨scope, between⟩ with ⟨outcome, after⟩
      rw [isLater] at later
      cases later
      rfl

end Rounds

/-! ## One round and the template alone -/

variable {composer : Composer}

/-- A round is what the nodes come to in any scope that binds the same names as the child of the round, with
as many levels left. Only going too deep may differ, since the limits do. -/
theorem roundGives_of_renderNodes (observesNothing : composer.registry.ObservesNothing)
    {scope alone : Scope} {binding : String} {value : Value}
    (sameNames : alone.SameNames (scope.enter [(.str binding, value)] (repeatLabel binding)).2)
    (limit limit' : Int) {level : Nat} {nodes : List Node} {cache : Cache} {outcome : Except Fault String}
    (isOutcome : ((composer.withLimit limit).renderNodes level nodes ⟨alone, cache⟩).1 = outcome)
    (notDeep : ∀ target, outcome ≠ .error (.tooDeep limit target)) :
    RoundGives ((composer.withLimit limit').renderRow ((composer.withLimit limit').below level)) binding
      nodes scope (fun reached => reached.Alike composer.library cache) value outcome := by
  intro reached alike
  have placed : Session.Placed composer.library Scope.SameNames
      (alone, (scope.enter [(.str binding, value)] (repeatLabel binding)).2) ⟨alone, cache⟩
      ⟨(scope.enter [(.str binding, value)] (repeatLabel binding)).2, reached⟩ :=
    ⟨sameNames, rfl, rfl, alike.symm⟩
  obtain ⟨sameOutcome, after⟩ := renderRow_placed Scope.isLikeness_sameNames
    (observesNothing.respects Scope.SameNames) limit limit' (Nat.le_refl level) placed isOutcome notDeep
  have leaves := (composer.withLimit limit).renderNodes_leavesCache level nodes ⟨alone, cache⟩
  rw [Render.inChild_apply, sameOutcome, after.rightScope, scope.leave_enter]
  exact ⟨_, rfl, after.caches.symm.trans leaves⟩

/-- A repetition over a list, where a level is left: the template is read once, and then come the rounds. -/
theorem repeatedText_list {scope : Scope} {level : Nat} (levels : composer.levelsBelow scope = level + 1)
    (text : String) (values : List Value) (named : Option String) (cache : Cache) :
    (composer.repeatedText scope text (.list values) named cache).1 =
      (inlineNodes text cache).1 >>= fun nodes =>
        (renderEach (composer.renderRow (composer.below level)) (boundName composer.settings.defaultBinding named) nodes
          values ⟨scope, (inlineNodes text cache).2⟩).1 := by
  have repeats : composer.repeatTemplate (composer.below (level + 1)) text (.list values) named =
      Render.withCache (inlineNodes text) >>= fun nodes =>
        renderEach (composer.renderRow (composer.below level)) (boundName composer.settings.defaultBinding named) nodes
          values := rfl
  show (composer.repeatTemplate (composer.below (composer.levelsBelow scope)) text (.list values) named
    ⟨scope, cache⟩).1 = _
  rw [levels, repeats, Work.bind_apply, Render.withCache_apply]
  rcases inlineNodes text cache with ⟨outcome, after⟩
  cases outcome with
  | ok nodes => rfl
  | error fault => rfl

/-! ## Quoted templates -/

/-- The stage repeats the text, with the binding that it names if it names one; a failure that is none of a template
is reported under the name of the filter. -/
theorem call_forEach
    (isForEach : composer.registry.find? forEachName = FilterRegistry.standard.find? forEachName)
    (below : Below) (text : String) (values : List Value) {given : List Value} {named : Option String}
    (few : given.length ≤ 1) (accepted : bindingArgument (given.headD .null) = .ok named) :
    composer.call below forEachName (.str text) (.list values :: given) =
      tryCatch (composer.repeatTemplate below text (.list values) named >>= fun text => pure (.str text))
        fun fault => throw (blame forEachName fault) := by
  have repeats : repeatArguments (.str text) (.list values :: given) = .ok (text, .list values, named) := by
    have isSecond : (Value.list values :: given).getD 1 .null = given.headD .null := by
      cases given with
      | nil => rfl
      | cons => rfl
    rw [repeatArguments, isSecond, accepted]
    rfl
  have acts : composer.act below .repeatTemplate (.str text) (.list values :: given) =
      composer.repeatTemplate below text (.list values) named >>= fun text => pure (.str text) := by
    rw [act, repeats]
    rfl
  unfold call
  rw [isForEach, ← acts]
  cases given with
  | nil => rfl
  | cons first others =>
      obtain rfl : others = [] := List.eq_nil_of_length_eq_zero (Nat.le_zero.1 (Nat.le_of_succ_le_succ few))
      rfl

theorem nodesText_handing
    (isForEach : composer.registry.find? forEachName = FilterRegistry.standard.find? forEachName)
    {scope : Scope} {name : String} {values : List Value} (found : scope.resolve name = some (.list values))
    (text source : String) (stageLine stageColumn line column : Int) (cache : Cache) :
    (composer.nodesText scope
        [.expression (handing text forEachName name stageLine stageColumn) source line column] cache).1 =
      (composer.repeatedText scope text (.list values) none cache).1.mapError (blame forEachName) := by
  have isCall : ∀ below, composer.call below forEachName (.str text) [.list values] =
      tryCatch (composer.repeatTemplate below text (.list values) none >>= fun text => pure (.str text))
        fun fault => throw (blame forEachName fault) :=
    fun below => call_forEach isForEach below text values (Nat.zero_le 1) rfl
  unfold nodesText repeatedText inside inScope renderNodes handing
  simp only [renderRow, renderNode, evaluatePipeline, evaluate, Literal.toValue, runStages, evaluateItems,
    followSegments, Work.bind_apply, Work.pure_apply, Render.resolve, found, isCall,
    Work.rename_apply]
  rcases composer.repeatTemplate (composer.below (composer.levelsBelow scope)) text (.list values) none
    ⟨scope, cache⟩ with ⟨outcome, after⟩
  cases outcome with
  | error fault => rfl
  | ok joined =>
      show Except.ok (joined ++ "") = .ok joined
      rw [String.append_empty]

/-! ## Texts with arguments -/

/-- A text that can be read is rendered as its nodes. -/
theorem renderText_read (composer : Composer) {text : String} {nodes : List Node}
    (read : parseTemplate text = .ok nodes) (arguments : Entries) :
    composer.renderText text arguments = composer.nodesText (composer.textScope arguments) nodes := by
  unfold renderText
  rw [read]
  rfl

theorem renderText_unread (composer : Composer) {text : String} {fault : Fault}
    (unread : parseTemplate text = .error fault) (arguments : Entries) (cache : Cache) :
    composer.renderText text arguments cache = (.error fault, cache) := by
  unfold renderText
  rw [unread]
  rfl

theorem resolve_textScope (composer : Composer) (arguments : Entries) (name : String) :
    (composer.textScope arguments).resolve name =
      (arguments.at? (.str name)).or (composer.settings.arguments.at? (.str name)) := by
  rw [textScope, Scope.resolve_extend, Scope.resolve_ofRoot]

/-- All levels that the limit admits are left for a text. -/
theorem levelsBelow_textScope (composer : Composer) (limit : Nat) (arguments : Entries) :
    (composer.withLimit limit).levelsBelow ((composer.withLimit limit).textScope arguments) = limit := by
  show ((limit : Int) - (0 : Nat)).toNat = limit
  omega

/-- A value among the arguments is seen like one that a child binds. -/
theorem sameNames_round (composer : Composer) (arguments : Entries) (binding : String) (value : Value) :
    (composer.textScope (arguments.put (.str binding) value)).SameNames
      ((composer.textScope arguments).enter [(.str binding, value)] (repeatLabel binding)).2 := by
  intro name
  rw [Scope.resolve_enter, resolve_textScope, resolve_textScope, Entries.at?_put, Entries.at?_cons]
  by_cases isName : (Value.str binding).sameKey (.str name) = true
  · rw [if_pos isName, if_pos isName]
    rfl
  · rw [if_neg isName, if_neg isName]
    rfl

theorem find?_forEach {registry : FilterRegistry} (builtIn : registry.IsBuiltIn) :
    registry.find? forEachName = FilterRegistry.standard.find? forEachName := by
  unfold FilterRegistry.find?
  rcases builtIn with standard | withMarkdown
  · rw [standard]
  · rw [withMarkdown]
    rfl

/-- The text of the template that repeats a quoted text over the list `xs`. -/
theorem handingTemplate_xs (text : String) :
    handingTemplate text forEachName "xs" =
      "\x7b\x7b " ++ quotedText text ++ " | forEach(xs) \x7d\x7d" := by
  simp [handingTemplate, forEachName, String.append_assoc]

/-- The text with one more argument, the value under the default binding. -/
def textWith (composer : Composer) (limit : Nat) (text : String) (arguments : Entries) (cache : Cache)
    (value : Value) : Except Fault String :=
  ((composer.withLimit limit).renderText text
    (arguments.put (.str composer.settings.defaultBinding) value) cache).1

/-- The template that repeats the quoted text, under the next limit. -/
def repetition (composer : Composer) (limit : Nat) (text : String) (arguments : Entries) (cache : Cache) :
    Except Fault String :=
  ((composer.withLimit (limit + 1)).renderText
    ("\x7b\x7b " ++ quotedText text ++ " | forEach(xs) \x7d\x7d") arguments cache).1

/-- What renders a round under the next limit, which has as many levels left as the text alone. -/
def renderRound (composer : Composer) (limit : Nat) : List Node → Render String :=
  (composer.withLimit (limit + 1)).renderRow ((composer.withLimit (limit + 1)).below limit)

/-- What the outer template comes to: the rounds of the quoted text, if it can be read. -/
theorem repetition_eq (builtIn : composer.registry.IsBuiltIn) (limit : Nat) (text : String)
    {arguments : Entries} {values : List Value} (bound : arguments.at? (.str "xs") = some (.list values))
    (cache : Cache) :
    composer.repetition limit text arguments cache =
      ((inlineNodes text cache).1 >>= fun nodes =>
        (renderEach (composer.renderRound limit) composer.settings.defaultBinding nodes values
          ⟨composer.textScope arguments, (inlineNodes text cache).2⟩).1).mapError (blame forEachName) := by
  obtain ⟨line, column, read⟩ :=
    @parseTemplate_handing text forEachName "xs" (by decide) (by decide) (by decide)
  rw [handingTemplate_xs] at read
  have isForEach : (composer.withLimit (limit + 1)).registry.find? forEachName =
      FilterRegistry.standard.find? forEachName := find?_forEach builtIn
  have found : ((composer.withLimit (limit + 1)).textScope arguments).resolve "xs" =
      some (.list values) := by
    rw [resolve_textScope, bound]
    rfl
  have levels : (composer.withLimit (limit + 1)).levelsBelow
      ((composer.withLimit (limit + 1)).textScope arguments) = limit + 1 :=
    composer.levelsBelow_textScope (limit + 1) arguments
  rw [repetition, renderText_read _ read, nodesText_handing isForEach found, repeatedText_list levels]
  rfl

/-- A round of the repeated text is the text itself, rendered with the value among its arguments. -/
theorem roundGives_of_renderText (observesNothing : composer.registry.ObservesNothing) (limit : Nat)
    {text : String} {nodes : List Node} (read : parseTemplate text = .ok nodes) {arguments : Entries}
    {value : Value} {cache : Cache} {outcome : Except Fault String}
    (isOutcome : composer.textWith limit text arguments cache value = outcome)
    (notDeep : ∀ target, outcome ≠ .error (.tooDeep limit target)) :
    RoundGives (composer.renderRound limit) composer.settings.defaultBinding nodes
      (composer.textScope arguments) (fun reached => reached.Alike composer.library cache) value outcome := by
  refine roundGives_of_renderNodes observesNothing (sameNames_round composer arguments _ value) limit
    (limit + 1) ?_ notDeep
  rw [textWith, renderText_read _ read, nodesText, levelsBelow_textScope] at isOutcome
  exact isOutcome

section Repeated

variable (builtIn : composer.registry.IsBuiltIn) (limit : Nat) {text : String} {nodes : List Node}
  (read : parseTemplate text = .ok nodes) {arguments : Entries} {values : List Value} {cache cache' : Cache}
  (caches : cache'.Alike composer.library cache) (known : (inlineNodes text cache).1 = parseTemplate text)

include builtIn read

/-- Rounds that have texts alone have them in the repetition. -/
theorem rounds_of_textWith {texts : List String}
    (succeed : List.Forall₂
      (fun value text' => composer.textWith limit text arguments cache value = .ok text') values texts) :
    List.Forall₂ (fun value text' => RoundGives (composer.renderRound limit)
      composer.settings.defaultBinding nodes (composer.textScope arguments)
      (fun reached => reached.Alike composer.library cache) value (.ok text')) values texts := by
  refine succeed.imp ?_
  intro value text' succeeds
  exact roundGives_of_renderText builtIn.observesNothing limit read succeeds fun _ => nofun

include caches known

/-- A text that can be read is repeated from a cache by way of which the same is found. -/
theorem repetition_read (bound : arguments.at? (.str "xs") = some (.list values)) :
    ∃ between, between.Alike composer.library cache ∧
      composer.repetition limit text arguments cache' =
        (renderEach (composer.renderRound limit) composer.settings.defaultBinding nodes values
          ⟨composer.textScope arguments, between⟩).1.mapError (blame forEachName) := by
  refine ⟨(inlineNodes text cache').2, ?_, ?_⟩
  · exact (Cache.Alike.of_inlineNodes composer.library text cache').trans caches
  · rw [repetition_eq builtIn limit text bound, caches.inline, known, read]
    rfl

theorem repetition_of_texts (bound : arguments.at? (.str "xs") = some (.list values)) {texts : List String}
    (succeed : List.Forall₂
      (fun value text' => composer.textWith limit text arguments cache value = .ok text') values texts) :
    composer.repetition limit text arguments cache' = .ok (String.join texts) := by
  obtain ⟨between, alike, isRepeated⟩ := repetition_read builtIn limit read caches known bound
  obtain ⟨after, joins, -⟩ := renderEach_texts (rounds_of_textWith builtIn limit read succeed) alike
  rw [isRepeated, joins]
  rfl

theorem repetition_of_failure {front back : List Value} {texts : List String} {value : Value} {fault : Fault}
    (bound : arguments.at? (.str "xs") = some (.list (front ++ value :: back)))
    (succeed : List.Forall₂
      (fun value text' => composer.textWith limit text arguments cache value = .ok text') front texts)
    (failed : composer.textWith limit text arguments cache value = .error fault)
    (notDeep : ∀ deepest target, fault ≠ .tooDeep deepest target) :
    composer.repetition limit text arguments cache' = .error (blame forEachName fault) := by
  obtain ⟨between, alike, isRepeated⟩ := repetition_read builtIn limit read caches known bound
  have failing := roundGives_of_renderText builtIn.observesNothing limit read failed
    fun target isDeep => notDeep limit target (Except.error.inj isDeep)
  rw [isRepeated, renderEach_fails (rounds_of_textWith builtIn limit read succeed) failing back alike]
  rfl

end Repeated

/-- A repetition is the concatenation of its rounds, for any quoted template. Under a limit of nought or more,
take the text with each value of a list as the default binding, among arguments that have the list as `xs`. If all of these
renders have a text, the template that repeats the quoted text over `xs` has, under the next limit and with
the same arguments, their texts in order. If the first of them that fails does so with an error of a template
other than going too deep, the repetition fails with this error. -/
theorem repetition_joins_texts (builtIn : composer.registry.IsBuiltIn) (limit : Nat) (text : String)
    {arguments : Entries} {values : List Value} (bound : arguments.at? (.str "xs") = some (.list values))
    (readable : values ≠ [] ∨ (parseTemplate text).isOk = true) {cache cache' : Cache}
    (caches : cache'.Alike composer.library cache) (known : (inlineNodes text cache).1 = parseTemplate text) :
    let alone (value : Value) := ((composer.withLimit limit).renderText text
      (arguments.put (.str composer.settings.defaultBinding) value) cache).1
    let repeated := ((composer.withLimit (limit + 1)).renderText
      ("\x7b\x7b " ++ quotedText text ++ " | forEach(xs) \x7d\x7d") arguments cache').1
    (∀ texts, List.Forall₂ (fun value text => alone value = .ok text) values texts →
        repeated = .ok (String.join texts)) ∧
      ∀ front texts value back fault, values = front ++ value :: back →
        List.Forall₂ (fun value text => alone value = .ok text) front texts → alone value = .error fault →
          fault.isTemplateFault = true → (∀ deepest target, fault ≠ .tooDeep deepest target) →
            repeated = .error fault := by
  intro alone repeated
  cases read : parseTemplate text with
  | error unread =>
      -- A text that cannot be read fails for every value alone, and once before the first round.
      have fails : ∀ value, alone value = .error unread := by
        intro value
        have isUnread := (composer.withLimit limit).renderText_unread read
          (arguments.put (.str composer.settings.defaultBinding) value) cache
        exact congrArg Prod.fst isUnread
      constructor
      · intro texts succeed
        cases succeed with
        | nil =>
            rw [read] at readable
            rcases readable with nonempty | isOk
            · exact absurd rfl nonempty
            · cases isOk
        | cons succeeds _ => cases (fails _).symm.trans succeeds
      · intro front texts value back fault _ _ failed isTemplateFault _
        cases (fails value).symm.trans failed
        have isRepeated : repeated = _ := repetition_eq builtIn limit text bound cache'
        rw [isRepeated, caches.inline, known, read]
        exact congrArg Except.error (blame_templateFault forEachName isTemplateFault)
  | ok nodes =>
      constructor
      · intro texts succeed
        exact repetition_of_texts builtIn limit read caches known bound succeed
      · rintro front texts value back fault rfl succeed failed isTemplateFault notDeep
        rw [← blame_templateFault forEachName isTemplateFault]
        exact repetition_of_failure builtIn limit read caches known bound succeed failed notDeep

/-- The law for a quoted text that repeats another quoted text over the members of each value. -/
theorem repetition_joins_texts_at_nested :
    let composer : Composer := ⟨.default, ⟨.memory [], ".html"⟩, .standard⟩
    let text := "\x7b\x7b '\x7b\x7b it \x7d\x7d;' | forEach(it) \x7d\x7d"
    let first : Value := .list [.int 1, .int 2]
    let second : Value := .list [.int 3]
    let arguments : Entries := [(.str "xs", .list [first, second])]
    let alone (value : Value) := ((composer.withLimit (1 : Nat)).renderText text
      (arguments.put (.str composer.settings.defaultBinding) value) .empty).1
    composer.registry.IsBuiltIn ∧ arguments.at? (.str "xs") = some (.list [first, second]) ∧
      (inlineNodes text .empty).1 = parseTemplate text ∧ alone first = .ok "1;2;" ∧
      alone second = .ok "3;" ∧
      ((composer.withLimit ((1 : Nat) + 1)).renderText
        "\x7b\x7b '\x7b\x7b \\'\x7b\x7b it \x7d\x7d;\\' | forEach(it) \x7d\x7d' | forEach(xs) \x7d\x7d"
        arguments .empty).1 = .ok "1;2;3;" := by
  intro composer text first second arguments alone
  have builtIn : composer.registry.IsBuiltIn := .inl rfl
  have known : (inlineNodes text .empty).1 = parseTemplate text := by
    rw [inlineNodes_result]
    rfl
  have isFirst : alone first = .ok "1;2;" := by decide +kernel
  have isSecond : alone second = .ok "3;" := by decide +kernel
  have quoted : "\x7b\x7b " ++ quotedText text ++ " | forEach(xs) \x7d\x7d" =
      "\x7b\x7b '\x7b\x7b \\'\x7b\x7b it \x7d\x7d;\\' | forEach(it) \x7d\x7d' | forEach(xs) \x7d\x7d" := by
    decide +kernel
  have joins := (repetition_joins_texts builtIn 1 text (show arguments.at? (.str "xs") = _ from rfl)
    (.inl (List.cons_ne_nil _ _)) (.refl composer.library .empty) known).1 ["1;2;", "3;"]
    (.cons isFirst (.cons isSecond .nil))
  rw [quoted] at joins
  exact ⟨builtIn, rfl, known, isFirst, isSecond, joins⟩

/-- Under a limit below nought the text of a value alone is still rendered, since it opens no child, while the
repetition would have to open one and is refused. -/
theorem repetition_refused_below_nought :
    let composer : Composer := ⟨.default, ⟨.memory [], ".html"⟩, .standard⟩
    let arguments : Entries := [(.str "xs", .list [.int 1])]
    composer.registry.IsBuiltIn ∧ arguments.at? (.str "xs") = some (.list [.int 1]) ∧
      (inlineNodes "a" .empty).1 = parseTemplate "a" ∧
      ((composer.withLimit (-1)).renderText "a"
        (arguments.put (.str composer.settings.defaultBinding) (.int 1)) .empty).1 = .ok "a" ∧
      ((composer.withLimit (-1 + 1)).renderText
        ("\x7b\x7b " ++ quotedText "a" ++ " | forEach(xs) \x7d\x7d") arguments .empty).1 =
          .error (.tooDeep 0 "forEach:it") := by
  intro composer arguments
  have known : (inlineNodes "a" .empty).1 = parseTemplate "a" := by
    rw [inlineNodes_result]
    rfl
  refine ⟨.inl rfl, rfl, known, ?isText, ?isRefused⟩
  case isText => decide +kernel
  case isRefused => decide +kernel

end Composer

end Folio
