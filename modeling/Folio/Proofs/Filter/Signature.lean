import Mathlib.Data.List.Basic
import Folio.Filter.Registry

/-!
Contract: what the arity of a filter says about calling its function.

Owns: the signatures that a function can have, the binding of arguments without names to the parameters of
one, the counts of arguments that bind, and that a registered filter accepts arguments exactly when they bind
behind those that the pipeline puts first.

Does not own: a function whose parameters for names lack a default, since no call of the pipeline binds it.
-/

namespace Folio

/-! ## Signatures -/

/-- The place that the parameters of a kind have in a signature. -/
def ParameterKind.rank : ParameterKind → Nat
  | .positionalOnly => 0
  | .positional => 1
  | .rest => 2
  | .named => 3
  | .namedRest => 4

namespace Parameter

/-- Takes one argument by its place. -/
def isPositional (parameter : Parameter) : Bool :=
  match parameter.kind with
  | .positional | .positionalOnly => true
  | .rest | .named | .namedRest => false

/-- Takes as many arguments as there are left. -/
def collects (parameter : Parameter) : Bool :=
  match parameter.kind with
  | .rest | .namedRest => true
  | .positional | .positionalOnly | .named => false

/-- Has to be given an argument by its place. -/
def isBare (parameter : Parameter) : Bool :=
  parameter.isPositional && !parameter.hasDefault

theorem isRest_of_isPositional {parameter : Parameter} (positional : parameter.isPositional) :
    parameter.isRest = false := by
  cases kind : parameter.kind <;> simp_all [isPositional, isRest]

theorem isRequired_of_isPositional {parameter : Parameter} (positional : parameter.isPositional) :
    parameter.isRequired = parameter.isBare := by
  simp [isRequired, isBare, positional, isRest_of_isPositional positional]

end Parameter

/-- The parameters that a function can be declared with. -/
structure IsSignature (parameters : List Parameter) : Prop where
  names : (parameters.map Parameter.name).Nodup
  kinds : parameters.Pairwise fun earlier later => earlier.kind.rank ≤ later.kind.rank
  collecting : parameters.Pairwise fun earlier later => earlier.collects → earlier.kind ≠ later.kind
  defaults : parameters.Pairwise fun earlier later =>
    earlier.isPositional → earlier.hasDefault → later.isPositional → later.hasDefault
  withoutDefault : ∀ parameter ∈ parameters, parameter.collects → parameter.hasDefault = false

namespace IsSignature

variable {parameter : Parameter} {parameters : List Parameter}

theorem tail (signature : IsSignature (parameter :: parameters)) : IsSignature parameters where
  names := (List.nodup_cons.1 signature.names).2
  kinds := signature.kinds.of_cons
  collecting := signature.collecting.of_cons
  defaults := signature.defaults.of_cons
  withoutDefault := fun other inside =>
    signature.withoutDefault other (List.mem_cons_of_mem parameter inside)

/-- What has to be given an argument stands before everything that has not. -/
theorem bareFirst (signature : IsSignature parameters) :
    parameters.Pairwise fun earlier later => earlier.isBare = false → later.isBare = false := by
  refine (signature.kinds.and signature.defaults).imp fun {earlier later} order defaulted => ?_
  cases kind : earlier.kind <;> cases laterKind : later.kind <;>
    simp_all [Parameter.isBare, Parameter.isPositional, ParameterKind.rank]

/-- No parameter stands behind one for all the rest that takes an argument without a name. -/
theorem filter_takesArguments_eq_nil (signature : IsSignature (parameter :: parameters))
    (rest : parameter.isRest) : parameters.filter Parameter.takesArguments = [] := by
  rw [List.filter_eq_nil_iff]
  intro later inside takes
  have order := List.rel_of_pairwise_cons signature.kinds inside
  have unique := List.rel_of_pairwise_cons signature.collecting inside
  cases laterKind : later.kind <;>
    simp_all [Parameter.isRest, Parameter.takesArguments, Parameter.collects, ParameterKind.rank]

end IsSignature

theorem countP_isBare_eq_zero {parameter : Parameter} {parameters : List Parameter}
    (bareFirst : (parameter :: parameters).Pairwise fun earlier later =>
      earlier.isBare = false → later.isBare = false)
    (defaulted : parameter.isBare = false) : parameters.countP Parameter.isBare = 0 := by
  rw [List.countP_eq_zero]
  intro later inside
  simp [List.rel_of_pairwise_cons bareFirst inside defaulted]

/-! ## Binding -/

/-- What a call gives to a parameter: an argument of its own, all that are left, or its default. -/
inductive Filling (α : Type) where
  | argument (given : α)
  | remaining (given : List α)
  | default

/-- Binds arguments without names to parameters, from the first to the last; nothing if a parameter stays
empty or an argument is left. -/
def bindArguments? {α : Type} : List Parameter → List α → Option (List (String × Filling α))
  | [], [] => some []
  | [], _ :: _ => none
  | parameter :: parameters, arguments =>
      match parameter.kind, arguments with
      | .positional, given :: others | .positionalOnly, given :: others =>
          (bindArguments? parameters others).map ((parameter.name, .argument given) :: ·)
      | .positional, [] | .positionalOnly, [] | .named, _ =>
          if parameter.hasDefault then
            (bindArguments? parameters arguments).map ((parameter.name, .default) :: ·)
          else none
      | .rest, _ => (bindArguments? parameters []).map ((parameter.name, .remaining arguments) :: ·)
      | .namedRest, _ => (bindArguments? parameters arguments).map ((parameter.name, .remaining []) :: ·)

section Binding

variable {α : Type} {parameter : Parameter} {parameters : List Parameter}

theorem bindArguments?_place (positional : parameter.isPositional) (given : α) (others : List α) :
    (bindArguments? (parameter :: parameters) (given :: others)).isSome =
      (bindArguments? parameters others).isSome := by
  cases kind : parameter.kind <;> simp_all [Parameter.isPositional, bindArguments?]

theorem bindArguments?_emptyPlace (positional : parameter.isPositional) :
    (bindArguments? (parameter :: parameters) ([] : List α)).isSome =
      (parameter.hasDefault && (bindArguments? parameters ([] : List α)).isSome) := by
  cases kind : parameter.kind <;> cases hasDefault : parameter.hasDefault <;>
    simp_all [Parameter.isPositional, bindArguments?]

theorem bindArguments?_rest (kind : parameter.kind = .rest) (arguments : List α) :
    (bindArguments? (parameter :: parameters) arguments).isSome =
      (bindArguments? parameters ([] : List α)).isSome := by
  simp [bindArguments?, kind]

theorem bindArguments?_named (kind : parameter.kind = .named) (arguments : List α) :
    (bindArguments? (parameter :: parameters) arguments).isSome =
      (parameter.hasDefault && (bindArguments? parameters arguments).isSome) := by
  cases hasDefault : parameter.hasDefault <;> simp [bindArguments?, kind, hasDefault]

theorem bindArguments?_namedRest (kind : parameter.kind = .namedRest) (arguments : List α) :
    (bindArguments? (parameter :: parameters) arguments).isSome =
      (bindArguments? parameters arguments).isSome := by
  simp [bindArguments?, kind]

/-- Arguments bind to a signature exactly when they fill every place without a default and find a place each;
what is only given by name must have its default. -/
theorem bindArguments?_isSome_iff (signature : IsSignature parameters) (arguments : List α) :
    (bindArguments? parameters arguments).isSome ↔
      (∀ parameter ∈ parameters, parameter.kind = .named → parameter.hasDefault) ∧
        parameters.countP Parameter.isBare ≤ arguments.length ∧
        (arguments.length ≤ parameters.countP Parameter.isPositional ∨ parameters.any Parameter.isRest) := by
  induction parameters generalizing arguments with
  | nil => cases arguments <;> simp [bindArguments?]
  | cons parameter parameters inductionHypothesis =>
      have behind := inductionHypothesis signature.tail
      have nothingBare := countP_isBare_eq_zero signature.bareFirst
      rw [List.forall_mem_cons, List.countP_cons, List.countP_cons, List.any_cons]
      cases kind : parameter.kind with
      | rest =>
          have bare : parameter.isBare = false := by simp [Parameter.isBare, Parameter.isPositional, kind]
          rw [bindArguments?_rest kind, behind]
          simp [bare, nothingBare bare, Parameter.isRest, kind]
      | named =>
          rw [bindArguments?_named kind, Bool.and_eq_true, behind]
          simp [Parameter.isBare, Parameter.isPositional, Parameter.isRest, kind, and_assoc]
      | namedRest =>
          rw [bindArguments?_namedRest kind, behind]
          simp [Parameter.isBare, Parameter.isPositional, Parameter.isRest, kind]
      | positional | positionalOnly =>
          have positional : parameter.isPositional := by simp [Parameter.isPositional, kind]
          have notRest := Parameter.isRest_of_isPositional positional
          cases arguments with
          | nil =>
              rw [bindArguments?_emptyPlace positional, Bool.and_eq_true, behind]
              simp [Parameter.isBare, positional, notRest, and_comm, and_left_comm]
          | cons given others =>
              rw [bindArguments?_place positional, behind]
              cases bare : parameter.isBare with
              | false => simp [positional, notRest, nothingBare bare]
              | true => simp [positional, notRest]

example : bindArguments? [.required "value", .optional "width", ⟨"parts", .rest, false⟩, ⟨"sep", .named, true⟩]
    [1, 2, 3] =
      some [("value", .argument 1), ("width", .argument 2), ("parts", .remaining [3]), ("sep", .default)] := rfl

end Binding

/-! ## Accepted counts -/

section Acceptance

variable {parameters : List Parameter}

/-- The parameters of a signature that take arguments without a name are those with places of their own and
then the one for all the rest. -/
theorem IsSignature.filter_takesArguments (signature : IsSignature parameters) :
    parameters.filter Parameter.takesArguments =
      parameters.filter Parameter.isPositional ++ parameters.filter Parameter.isRest := by
  induction parameters with
  | nil => rfl
  | cons parameter parameters inductionHypothesis =>
      have behind := inductionHypothesis signature.tail
      cases kind : parameter.kind with
      | rest =>
          have nothing := signature.filter_takesArguments_eq_nil (by simp [Parameter.isRest, kind])
          rw [nothing, eq_comm, List.append_eq_nil_iff] at behind
          simp [Parameter.takesArguments, Parameter.isPositional, Parameter.isRest, kind, nothing, behind]
      | positional | positionalOnly | named | namedRest =>
          simp [Parameter.takesArguments, Parameter.isPositional, Parameter.isRest, kind, behind]

/-- The first places are the first to lack a default. -/
theorem countP_isBare_drop {places : List Parameter}
    (bareFirst : places.Pairwise fun earlier later => earlier.isBare = false → later.isBare = false)
    (filled : Nat) :
    (places.drop filled).countP Parameter.isBare = places.countP Parameter.isBare - filled := by
  induction places generalizing filled with
  | nil => simp
  | cons place places inductionHypothesis =>
      cases filled with
      | zero => rfl
      | succ filled =>
          rw [List.drop_succ_cons, inductionHypothesis bareFirst.of_cons, List.countP_cons]
          cases bare : place.isBare with
          | true => simp
          | false => simp [countP_isBare_eq_zero bareFirst bare]

theorem any_isRest_filter_isRest (parameters : List Parameter) :
    (parameters.filter Parameter.isRest).any Parameter.isRest = parameters.any Parameter.isRest := by
  simp [List.any_filter]

theorem any_isRest_eq_false {places : List Parameter} (subset : places ⊆ parameters.filter Parameter.isPositional) :
    places.any Parameter.isRest = false := by
  rw [List.any_eq_false]
  intro place inside
  simp [Parameter.isRest_of_isPositional (List.mem_filter.1 (subset inside)).2]

/-- The parameter for all the rest is among the first ones when these are more than the places. -/
theorem any_isRest_take (signature : IsSignature parameters) (filled : Nat) :
    ((parameters.filter Parameter.takesArguments).take filled).any Parameter.isRest ↔
      parameters.any Parameter.isRest ∧ parameters.countP Parameter.isPositional < filled := by
  rw [signature.filter_takesArguments, List.take_append, List.any_append,
    any_isRest_eq_false (List.take_subset _ _), Bool.false_or, ← List.countP_eq_length_filter,
    ← any_isRest_filter_isRest parameters, ← Nat.sub_pos_iff_lt]
  cases rest : parameters.filter Parameter.isRest with
  | nil => simp
  | cons first others =>
      have isRest : first.isRest := (List.mem_filter.1 (rest ▸ List.mem_cons_self)).2
      cases filled - parameters.countP Parameter.isPositional with
      | zero => simp
      | succ more => simp [isRest]

/-- Behind places that are filled stand the other places and the parameter for all the rest. -/
theorem drop_takesArguments (signature : IsSignature parameters) {filled : Nat}
    (room : filled ≤ parameters.countP Parameter.isPositional) :
    (parameters.filter Parameter.takesArguments).drop filled =
      (parameters.filter Parameter.isPositional).drop filled ++ parameters.filter Parameter.isRest := by
  rw [List.countP_eq_length_filter] at room
  rw [signature.filter_takesArguments, List.drop_append_of_le_length room]

/-- Of the parameters behind places that are filled, those without a default are required. -/
theorem length_required_drop (signature : IsSignature parameters) {filled : Nat}
    (room : filled ≤ parameters.countP Parameter.isPositional) :
    (((parameters.filter Parameter.takesArguments).drop filled).filter Parameter.isRequired).length =
      parameters.countP Parameter.isBare - filled := by
  have noneOfRest : (parameters.filter Parameter.isRest).filter Parameter.isRequired = [] :=
    List.filter_eq_nil_iff.2 fun parameter inside => by
      simp [Parameter.isRequired, (List.mem_filter.1 inside).2]
  have required : ∀ place ∈ (parameters.filter Parameter.isPositional).drop filled,
      place.isRequired ↔ place.isBare := fun place inside => by
    rw [Parameter.isRequired_of_isPositional (List.mem_filter.1 (List.mem_of_mem_drop inside)).2]
  have bare : (fun place : Parameter => place.isBare && place.isPositional) = Parameter.isBare := by
    funext place
    cases positional : place.isPositional <;> simp [Parameter.isBare, positional]
  rw [drop_takesArguments signature room, List.filter_append, noneOfRest, List.append_nil,
    ← List.countP_eq_length_filter, List.countP_congr required,
    countP_isBare_drop (signature.bareFirst.filter _), List.countP_filter, bare]

/-- With the parameter for all the rest among the filled ones every count is accepted. -/
theorem ofParameters_of_beyond (signature : IsSignature parameters) {filled : Nat}
    (rest : parameters.any Parameter.isRest) (beyond : parameters.countP Parameter.isPositional < filled) :
    Arity.ofParameters parameters filled = ⟨0, none⟩ := by
  rw [Arity.ofParameters, if_pos ((any_isRest_take signature filled).2 ⟨rest, beyond⟩)]

/-- Behind places that are filled the others stay open, and those without a default have to be filled. -/
theorem ofParameters_of_room (signature : IsSignature parameters) {filled : Nat}
    (room : filled ≤ parameters.countP Parameter.isPositional) :
    Arity.ofParameters parameters filled =
      ⟨(parameters.countP Parameter.isBare - filled : Nat),
        if parameters.any Parameter.isRest then none
        else some (parameters.countP Parameter.isPositional - filled : Nat)⟩ := by
  have front : ¬((parameters.filter Parameter.takesArguments).take filled).any Parameter.isRest := fun crowded =>
    Nat.not_lt.2 room ((any_isRest_take signature filled).1 crowded).2
  have required := length_required_drop signature room
  rw [drop_takesArguments signature room] at required
  have back : ((parameters.filter Parameter.isPositional).drop filled ++ parameters.filter Parameter.isRest).any
      Parameter.isRest = parameters.any Parameter.isRest := by
    rw [List.any_append, any_isRest_eq_false (List.drop_subset _ _), any_isRest_filter_isRest, Bool.false_or]
  rw [Arity.ofParameters, if_neg front, drop_takesArguments signature room]
  simp only [required, back]
  cases rest : parameters.any Parameter.isRest with
  | true => rfl
  | false =>
      have noRest : parameters.filter Parameter.isRest = [] := by
        simpa [List.filter_eq_nil_iff, List.any_eq_false] using rest
      rw [noRest, List.append_nil, List.length_drop, ← List.countP_eq_length_filter]
      rfl

theorem Arity.accepts_unlimited (least count : Nat) : (Arity.mk least none).accepts count ↔ least ≤ count := by
  simp [Arity.accepts]

theorem Arity.accepts_limited (least most count : Nat) :
    (Arity.mk least (some most)).accepts count ↔ least ≤ count ∧ count ≤ most := by
  simp [Arity.accepts]

/-- The arguments behind the first ones are as many as the signature leaves room for. -/
theorem accepts_ofParameters_iff (signature : IsSignature parameters) (filled count : Nat)
    (fits : filled ≤ parameters.countP Parameter.isPositional ∨ parameters.any Parameter.isRest) :
    (Arity.ofParameters parameters filled).accepts count ↔
      parameters.countP Parameter.isBare ≤ filled + count ∧
        (filled + count ≤ parameters.countP Parameter.isPositional ∨ parameters.any Parameter.isRest) := by
  by_cases room : filled ≤ parameters.countP Parameter.isPositional
  · rw [ofParameters_of_room signature room]
    cases parameters.any Parameter.isRest with
    | true =>
        rw [if_pos rfl, Arity.accepts_unlimited, Nat.sub_le_iff_le_add']
        exact (and_iff_left (.inr rfl)).symm
    | false =>
        rw [if_neg Bool.false_ne_true, Arity.accepts_limited, or_iff_left Bool.false_ne_true]
        omega
  · have rest := fits.resolve_left room
    have bareFew : parameters.countP Parameter.isBare ≤ parameters.countP Parameter.isPositional :=
      List.countP_mono_left fun parameter _ bare => (Bool.and_eq_true_iff.1 bare).1
    have enough : parameters.countP Parameter.isBare ≤ filled + count := by omega
    rw [ofParameters_of_beyond signature rest (Nat.lt_of_not_le room), ← Int.ofNat_zero, Arity.accepts_unlimited]
    exact iff_of_true (Nat.zero_le count) ⟨enough, .inr rest⟩

/-- Whether there is a greatest count does not depend on how many places are filled. -/
theorem most_ofParameters_eq_none_iff (parameters : List Parameter) (filled : Nat) :
    (Arity.ofParameters parameters filled).most = none ↔ parameters.any Parameter.isRest := by
  have takes : (fun parameter : Parameter => parameter.takesArguments && parameter.isRest) = Parameter.isRest := by
    funext parameter
    cases kind : parameter.kind <;> simp [Parameter.takesArguments, Parameter.isRest, kind]
  have parts : parameters.any Parameter.isRest =
      (((parameters.filter Parameter.takesArguments).take filled).any Parameter.isRest ||
        ((parameters.filter Parameter.takesArguments).drop filled).any Parameter.isRest) := by
    rw [← List.any_append, List.take_append_drop, List.any_filter, takes]
  rw [parts, Arity.ofParameters]
  dsimp only
  split_ifs with front behind <;> simp [*]

end Acceptance

/-! ## Registration -/

/-- The bounds of an offer are those of its parameters behind the first `filled` ones: left to the registry,
which fills as many as the action needs, or given. -/
inductive FilterOffer.HasDerivedBounds (offer : FilterOffer) : Nat → Prop
  | derived (least : offer.least = none) (most : offer.most = none) :
      HasDerivedBounds offer offer.action.filledParameters
  | given (filled : Nat) (least : offer.least = some (Arity.ofParameters offer.parameters filled).least)
      (most : offer.most = (Arity.ofParameters offer.parameters filled).most) : HasDerivedBounds offer filled

theorem FilterOffer.arity_of_hasDerivedBounds {offer : FilterOffer} {filled : Nat}
    (bounds : offer.HasDerivedBounds filled) : offer.arity = Arity.ofParameters offer.parameters filled := by
  cases bounds with
  | derived least most => simp [FilterOffer.arity, least, most]
  | given _ least most =>
      have unlimited := (most_ofParameters_eq_none_iff offer.parameters filled).trans
        (most_ofParameters_eq_none_iff offer.parameters offer.action.filledParameters).symm
      cases derived : Arity.ofParameters offer.parameters filled with
      | mk fewest limit =>
          rw [derived] at least most unlimited
          cases limit with
          | some limit => simp [FilterOffer.arity, least, most]
          | none => simp [FilterOffer.arity, least, most, unlimited.1 rfl]

theorem FilterRegistry.register_of_open {registry : FilterRegistry} (isOpen : registry.isFrozen = false)
    (name : String) (offer : FilterOffer) :
    registry.register name offer =
      .ok (⟨name, offer.action, offer.arity⟩, registry.put ⟨name, offer.action, offer.arity⟩) := by
  simp [FilterRegistry.register, isOpen]

theorem FilterRegistry.get_put (registry : FilterRegistry) (spec : FilterSpec) :
    (registry.put spec).get spec.name = .ok spec := by
  simp [FilterRegistry.put, FilterRegistry.get, FilterRegistry.find?]

/-- A filter that is registered with the bounds of its signature is found under its name and accepts the
arguments that its function can be called with behind those of the pipeline, and no others. -/
theorem registered_accepts_iff_binds {α : Type} (registry : FilterRegistry) (name : String) (offer : FilterOffer)
    (filled : Nat) (isOpen : registry.isFrozen = false) (signature : IsSignature offer.parameters)
    (fits : filled ≤ offer.parameters.countP Parameter.isPositional ∨ offer.parameters.any Parameter.isRest)
    (named : ∀ parameter ∈ offer.parameters, parameter.kind = .named → parameter.hasDefault)
    (bounds : offer.HasDerivedBounds filled) :
    ∃ spec registry', registry.register name offer = .ok (spec, registry') ∧ registry'.get name = .ok spec ∧
      ∀ first explicit : List α, first.length = filled →
        (spec.arity.accepts explicit.length ↔ (bindArguments? offer.parameters (first ++ explicit)).isSome) := by
  refine ⟨_, _, registry.register_of_open isOpen name offer, registry.get_put _, ?_⟩
  intro first explicit places
  show offer.arity.accepts explicit.length ↔ _
  rw [FilterOffer.arity_of_hasDerivedBounds bounds, accepts_ofParameters_iff signature filled _ fits,
    bindArguments?_isSome_iff signature, List.length_append, places]
  exact (and_iff_right named).symm

/-- A filter with one argument that has to be given and one that may be. -/
theorem registered_accepts_iff_binds_at_padding :
    let padding : FilterOffer :=
      ⟨.plain fun value _ => .ok value, [.required "value", .required "width", .optional "fill"], none, none⟩
    ∃ spec registry', FilterRegistry.empty.register "pad" padding = .ok (spec, registry') ∧
      registry'.get "pad" = .ok spec ∧
      ∀ first explicit : List Value, first.length = 1 →
        (spec.arity.accepts explicit.length ↔ (bindArguments? padding.parameters (first ++ explicit)).isSome) := by
  intro padding
  have signature : IsSignature padding.parameters :=
    ⟨by decide, by decide, by decide, by decide, by decide⟩
  exact registered_accepts_iff_binds FilterRegistry.empty "pad" padding 1 rfl signature (.inl (by decide))
    (by decide) (.derived rfl rfl)

end Folio
