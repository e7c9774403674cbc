import Folio.Proofs.Render.Inclusion

/-!
Contract: renders under a greater limit of nesting.

Owns: that composers which differ in their limits alone do the same in one and the same session, until the
smaller limit is too deep; and the law that a greater limit changes neither the outcome of a render nor what
has been read behind it, unless the render went too deep under the smaller one.

Does not own: what a render comes to under the greater limit where the smaller one was too deep.
-/

namespace Folio

open Folio.Template

/-- Work does the same as itself from one and the same state. -/
theorem Work.agrees_self {state α : Type} {excused : Fault → Prop} (work : Work state α) :
    Work.Agrees Eq excused work work := by
  rintro before _ rfl
  exact .inr ⟨rfl, rfl⟩

/-- A piece of work that is not excused comes to the same outcome and the same state as the other one. -/
theorem Work.Agrees.eq_of_not_excused {state α : Type} {excused : Fault → Prop} {work work' : Work state α}
    (agrees : Work.Agrees Eq excused work work') {before : state}
    (notExcused : ∀ fault, excused fault → (work before).1 ≠ .error fault) :
    work' before = work before := by
  rcases agrees before before rfl with ⟨fault, failed, isExcused⟩ | ⟨sameOutcome, sameState⟩
  · exact absurd failed (notExcused fault isExcused)
  · exact Prod.ext sameOutcome.symm sameState.symm

/-- The refusal to go below the last level that a limit admits. -/
def Fault.IsBeyond (limit : Int) (fault : Fault) : Prop :=
  ∃ target, fault = .tooDeep limit target

namespace Composer

variable {limit limit' : Int}

/-- No filter is blamed for going too deep. -/
theorem isBeyond_blame (name : String) (fault : Fault) (beyond : fault.IsBeyond limit) :
    (blame name fault).IsBeyond limit := by
  obtain ⟨target, rfl⟩ := beyond
  exact ⟨target, rfl⟩

theorem inChild_agrees_eq {excused : Fault → Prop} (bindings : Entries) (label : String)
    {work work' : Render String} (agrees : Work.Agrees Eq excused work work') :
    Work.Agrees Eq excused (Render.inChild bindings label work) (Render.inChild bindings label work') := by
  rintro session _ rfl
  rw [Render.inChild_apply, Render.inChild_apply]
  rcases agrees _ _ rfl with failed | ⟨sameOutcome, sameSession⟩
  · exact .inl failed
  · exact .inr ⟨sameOutcome, by rw [sameSession]⟩

theorem inScope_agrees_eq {excused : Fault → Prop} {α : Type} (scope : Scope) {work work' : Render α}
    (agrees : Work.Agrees Eq excused work work') :
    Work.Agrees Eq excused (inScope scope work) (inScope scope work') := by
  rintro cache _ rfl
  rcases agrees ⟨scope, cache⟩ _ rfl with failed | ⟨sameOutcome, sameSession⟩
  · exact .inl failed
  · exact .inr ⟨sameOutcome, congrArg Session.cache sameSession⟩

/-- Nothing but the number of levels depends on the limit: names, filters, pages, inline templates and
children are the same under both. -/
theorem agree_limits (composer : Composer) (limit limit' : Int) :
    Agree (fun _ : Unit => Eq) (fun _ _ _ => ()) (Fault.IsBeyond limit) (composer.withLimit limit)
      (composer.withLimit limit') where
  filter _ := rfl
  binding := rfl
  blame := isBeyond_blame
  resolve name _ := Work.agrees_self (Render.resolve name)
  observe := by
    rintro spec - run - _ session _ rfl
    rfl
  page name _ := Work.agrees_self (Render.withCache (composer.library.getPage name Library.partialKind))
  inline text _ := Work.agrees_self (Render.withCache (inlineNodes text))
  child _ bindings label _ _ agrees := inChild_agrees_eq bindings label agrees

/-- A greater limit leaves at least as many levels. -/
theorem levelsBelow_mono (composer : Composer) (more : limit ≤ limit') (scope : Scope) :
    (composer.withLimit limit).levelsBelow scope ≤ (composer.withLimit limit').levelsBelow scope := by
  change (limit - scope.nesting).toNat ≤ (limit' - scope.nesting).toNat
  omega

section MoreLevels

variable (composer : Composer) (more : limit ≤ limit')

include more

theorem renderNodes_agrees_limits (nodes : List Node) :
    Work.Agrees Eq (Fault.IsBeyond limit)
      ((composer.withLimit limit).renderNodes ((composer.withLimit limit).levelsBelow .empty) nodes)
      ((composer.withLimit limit').renderNodes ((composer.withLimit limit').levelsBelow .empty) nodes) := by
  have agree := composer.agree_limits limit limit'
  have moreLevels := agree.levels_le (fun target => ⟨target, rfl⟩) (composer.levelsBelow_mono more .empty)
  exact agree.renderRow moreLevels nodes ()

theorem renderPage_agrees_limits (page : Page) (arguments : Entries) :
    Work.Agrees Eq (Fault.IsBeyond limit) ((composer.withLimit limit).renderPage page arguments)
      ((composer.withLimit limit').renderPage page arguments) := by
  refine .bind (Work.agrees_self (composer.library.findLayout page composer.settings.layoutName)) ?_
  intro layout
  refine inScope_agrees_eq (composer.pageScope page layout arguments) ?_
  refine .bind (composer.renderNodes_agrees_limits more page.nodes) ?_
  intro body
  cases layout with
  | none => exact .pure body
  | some layout =>
      refine .bind (Work.agrees_self (bindRest [(.str bodyName, .str body)] "layout-body")) ?_
      intro _
      exact composer.renderNodes_agrees_limits more layout.nodes

theorem renderText_agrees_limits (text : String) (arguments : Entries) :
    Work.Agrees Eq (Fault.IsBeyond limit) ((composer.withLimit limit).renderText text arguments)
      ((composer.withLimit limit').renderText text arguments) := by
  refine .bind (.ofExcept (parseTemplate text)) ?_
  intro nodes
  exact inScope_agrees_eq (composer.textScope arguments) (composer.renderNodes_agrees_limits more nodes)

end MoreLevels

end Composer

end Folio
