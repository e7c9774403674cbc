import Folio.Filter.Standard
import Folio.Template.Survey

/-!
Contract: how filters can fail.

Owns: faults that can be foreseen without values and faults that cannot, filters that have no fault of the
first kind, and that the filters which sites start with are such filters.

Does not own: templates that filters are handed.
-/

namespace Folio

open Folio.Text Folio.Template

/-! ## Faults that can be foreseen -/

/-- Malformed texts and unknown filters. -/
def Fault.isStatic : Fault → Bool
  | .malformed _ => true
  | .unknownFilter _ => true
  | _ => false

/-- Faults that depend on values, on what is there, or on the depth of nesting. -/
def Fault.IsDynamic (fault : Fault) : Prop :=
  fault.isStatic = false

/-- A filter that fails for dynamic reasons only. It may repeat templates under its own name alone. -/
def FilterSpec.IsTame (spec : FilterSpec) : Prop :=
  match spec.action with
  | .plain run => ∀ value arguments fault, run value arguments = .error fault → fault.IsDynamic
  | .observing run =>
      ∀ scope value arguments fault, run scope value arguments = .error fault → fault.IsDynamic
  | .includePage => True
  | .repeatTemplate => spec.name = repeatingFilter

/-! ## Filters that sites start with -/

/-- The filters that sites start with, with the one for Markdown or without it. -/
def FilterRegistry.IsBuiltIn (registry : FilterRegistry) : Prop :=
  registry.specs = standard.specs ∨ registry.specs = standardWithMarkdown.specs

theorem isDynamic_of_mapError {α : Type} {outcome : Except Mishap α} {fault : Fault}
    (failed : outcome.mapError .mishap = .error fault) : fault.IsDynamic := by
  cases outcome with
  | ok result => cases failed
  | error cause =>
      cases failed
      rfl

theorem otherwiseFilter_total (value : Value) (arguments : List Value) (fault : Fault) :
    otherwiseFilter value arguments ≠ .error fault := by
  intro failed
  unfold otherwiseFilter at failed
  split at failed
  · cases failed
  · cases failed

theorem isDynamic_textFilter (change : String → String) (value : Value) (arguments : List Value)
    (fault : Fault) (failed : textFilter change value arguments = .error fault) :
    fault.IsDynamic := by
  unfold textFilter at failed
  split at failed
  · cases failed
  · cases failed
  · cases failed
    rfl

theorem isDynamic_joinFilter (value : Value) (arguments : List Value) (fault : Fault)
    (failed : joinFilter value arguments = .error fault) : fault.IsDynamic := by
  unfold joinFilter at failed
  split at failed
  · cases failed
  · split at failed
    · exact isDynamic_of_mapError failed
    · cases failed
      rfl

theorem isDynamic_markdownFilter (value : Value) (arguments : List Value) (fault : Fault)
    (failed : markdownFilter value arguments = .error fault) : fault.IsDynamic := by
  unfold markdownFilter at failed
  split at failed
  · cases failed
  · exact isDynamic_of_mapError failed

theorem isTame_of_standard : ∀ spec ∈ standardSpecs, spec.IsTame := by
  unfold standardSpecs
  simp only [List.forall_mem_cons]
  refine ⟨?_, isDynamic_textFilter upper, isDynamic_textFilter lower, isDynamic_joinFilter, ?_,
    trivial, rfl, fun _ member => absurd member List.not_mem_nil⟩
  · intro value arguments fault failed
    exact absurd failed (otherwiseFilter_total value arguments fault)
  · intro value arguments fault failed
    cases failed

theorem FilterRegistry.IsBuiltIn.isTame {registry : FilterRegistry} (builtIn : registry.IsBuiltIn) :
    ∀ spec ∈ registry.specs, spec.IsTame := by
  intro spec registered
  rcases builtIn with plain | withMarkdown
  · rw [plain] at registered
    exact isTame_of_standard spec registered
  · rw [withMarkdown] at registered
    rcases List.mem_cons.1 registered with rfl | registered
    · exact isDynamic_markdownFilter
    · exact isTame_of_standard spec (List.mem_filter.1 registered).1

end Folio
