import Folio.Proofs.Cache
import Folio.Proofs.Render.Agreement

/-!
Contract: renders do not show what has been read before.

Owns: sessions with the same scope over faithful caches, that composers cannot tell them apart, and that
rendering a page or a text has one result on all faithful caches and leaves a faithful one.

Does not own: how a cache comes to be faithful.
-/

namespace Folio

open Folio.Template

/-- Two sessions with one scope, each over a faithful cache of its own. -/
structure Session.Alike (library : Library) (left right : Session) : Prop where
  scope : left.scope = right.scope
  leftCache : left.cache.Faithful library
  rightCache : right.cache.Faithful library

namespace Session.Alike

variable {library : Library} {α : Type} {excused : Fault → Prop}

theorem withCache {work : Work Cache α} (blind : Blind library work) :
    Work.Agrees (Session.Alike library) excused (Render.withCache work) (Render.withCache work) := by
  intro session session' alike
  obtain ⟨isResult, leftAfter⟩ := blind session.cache alike.leftCache
  obtain ⟨isResult', rightAfter⟩ := blind session'.cache alike.rightCache
  exact .inr ⟨isResult.trans isResult'.symm, alike.scope, leftAfter, rightAfter⟩

theorem inChild (bindings : Entries) (label : String) {work work' : Render α}
    (agrees : Work.Agrees (Session.Alike library) excused work work') :
    Work.Agrees (Session.Alike library) excused (Render.inChild bindings label work)
      (Render.inChild bindings label work') := by
  intro session session' alike
  obtain ⟨scope, cache⟩ := session
  obtain ⟨scope', cache'⟩ := session'
  obtain ⟨rfl, leftFaithful, rightFaithful⟩ := alike
  have entered : Session.Alike library ⟨(scope.enter bindings label).2, cache⟩
      ⟨(scope.enter bindings label).2, cache'⟩ := ⟨rfl, leftFaithful, rightFaithful⟩
  rcases agrees _ _ entered with failed | ⟨sameResult, sameScope, leftAfter, rightAfter⟩
  · exact .inl failed
  · exact .inr ⟨sameResult, congrArg (Scope.leave · _) sameScope, leftAfter, rightAfter⟩

end Session.Alike

namespace Composer

/-- A composer cannot tell sessions apart that differ in faithful caches only. -/
theorem agree_self (composer : Composer) :
    Agree (fun _ : Unit => Session.Alike composer.library) (fun _ _ _ => ()) (fun _ => False) composer
      composer where
  filter _ := rfl
  binding := rfl
  blame _ _ isExcused := isExcused
  resolve name _ _ _ alike :=
    .inr ⟨congrArg (fun scope : Scope => Except.ok (scope.resolve name)) alike.scope, alike⟩
  observe _ _ run _ _ _ _ alike := congrArg run alike.scope
  page name _ := Session.Alike.withCache (.of_settled (composer.library.getPage_settled name _))
  inline text _ := Session.Alike.withCache (.of_settled (inlineNodes_settled composer.library text))
  child _ bindings label _ _ agrees := Session.Alike.inChild bindings label agrees

theorem inScope_blind {library : Library} {α : Type} (scope : Scope) {work : Render α}
    (agrees : Work.Agrees (Session.Alike library) (fun _ => False) work work) :
    Blind library (inScope scope work) := by
  intro cache faithful
  have alike : Session.Alike library ⟨scope, cache⟩ ⟨scope, .empty⟩ :=
    ⟨rfl, faithful, .empty library⟩
  obtain ⟨sameResult, after⟩ := agrees.same alike
  exact ⟨sameResult, after.leftCache⟩

theorem renderPage_blind (composer : Composer) (page : Page) (arguments : Entries) :
    Blind composer.library (composer.renderPage page arguments) := by
  refine .bind (composer.library.findLayout_blind page composer.settings.layoutName) ?_
  intro layout
  refine inScope_blind _ ?_
  refine .bind (composer.agree_self.renderNodes rfl _ page.nodes ()) ?_
  intro body
  cases layout with
  | none => exact .pure body
  | some layout =>
      refine .bind ?_ fun _ => composer.agree_self.renderNodes rfl _ layout.nodes ()
      intro session session' alike
      refine .inr ⟨rfl, ?_, alike.leftCache, alike.rightCache⟩
      exact congrArg (Scope.extend · _ _) alike.scope

theorem renderText_blind (composer : Composer) (text : String) (arguments : Entries) :
    Blind composer.library (composer.renderText text arguments) := by
  refine .bind (.of_settled (.ofExcept _)) ?_
  intro nodes
  exact inScope_blind _ (composer.agree_self.renderNodes rfl _ nodes ())

end Composer

end Folio
