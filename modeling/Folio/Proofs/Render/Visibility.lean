import Folio.Proofs.Cache
import Folio.Proofs.Filter.Standard
import Folio.Proofs.Render.Agreement
import Folio.Proofs.Scope

/-!
Contract: what a render can see of a scope.

Owns: likenesses of scopes, in which names are found alike and which children keep; sessions that are placed
in scopes that are alike; that renders cannot tell such sessions apart; and that a render, whether it has a
text or fails, leaves the scope as it has found it and a cache by way of which the same is found.

Does not own: which scopes are alike in which likeness, beyond those that bind all keys alike.
-/

namespace Folio

open Folio.Template

/-! ## Likenesses of scopes -/

namespace Scope

theorem chain_enter (scope : Scope) (bindings : Entries) (label : String) :
    (scope.enter bindings label).2.chain = ⟨bindings, scope.current, label⟩ :: scope.chain :=
  frameChain_newest ⟨bindings, scope.current, label⟩ scope.frames

/-- A child that has kept the scope inside is left with the scope as it was outside. -/
theorem leave_enter (scope : Scope) (bindings : Entries) (label : String) :
    (scope.enter bindings label).2.leave (scope.enter bindings label).1 = scope := by
  have isNewest : scope.frames.length + 1 =
      ((⟨bindings, scope.current, label⟩ : Frame) :: scope.frames).length := rfl
  change leave ⟨_ :: scope.frames, some scope.frames.length, scope.nesting + 1⟩
    ⟨scope.frames.length, scope.current⟩ = scope
  rw [leave, if_pos isNewest]
  rfl

/-- Scopes that are alike find every name alike, and stay alike in children with the same bindings. -/
structure IsLikeness (alike : Scope → Scope → Prop) : Prop where
  resolve : ∀ scope scope', alike scope scope' → ∀ name, scope.resolve name = scope'.resolve name
  enter : ∀ scope scope', alike scope scope' → ∀ bindings label,
    alike (scope.enter bindings label).2 (scope'.enter bindings label).2

theorem isLikeness_eq : IsLikeness Eq where
  resolve := by
    rintro scope _ rfl name
    rfl
  enter := by
    rintro scope _ rfl bindings label
    rfl

/-- Two scopes that bind every key alike, however many frames it takes them. -/
def SameBindings (scope scope' : Scope) : Prop :=
  ∀ key, findKey scope.chain key = findKey scope'.chain key

theorem findKey_cons (frame : Frame) (frames : List Frame) (key : Value) :
    findKey (frame :: frames) key = (frame.bindings.at? key).or (findKey frames key) := by
  rw [findKey, List.findSome?_cons]
  cases frame.bindings.at? key with
  | some value => rfl
  | none => rfl

theorem SameBindings.symm {scope scope' : Scope} (same : SameBindings scope scope') :
    SameBindings scope' scope :=
  fun key => (same key).symm

theorem isLikeness_sameBindings : IsLikeness SameBindings where
  resolve _ _ same name := same (.str name)
  enter := by
    intro scope scope' same bindings label key
    rw [chain_enter, chain_enter, findKey_cons, findKey_cons, same key]

/-- A child without bindings of its own binds what is bound around it. -/
theorem sameBindings_enter_nil (scope : Scope) (label : String) :
    SameBindings (scope.enter [] label).2 scope := by
  intro key
  rw [chain_enter, findKey_cons]
  rfl

end Scope

/-! ## Parts of sessions -/

namespace Render

theorem withCache_apply {α : Type} (work : Work Cache α) (session : Session) :
    withCache work session =
      ((work session.cache).1, { session with cache := (work session.cache).2 }) := rfl

theorem inChild_apply {α : Type} (bindings : Entries) (label : String) (work : Render α)
    (session : Session) :
    inChild bindings label work session =
      ((work { session with scope := (session.scope.enter bindings label).2 }).1,
        { (work { session with scope := (session.scope.enter bindings label).2 }).2 with
          scope := (work { session with scope := (session.scope.enter bindings label).2 }).2.scope.leave
            (session.scope.enter bindings label).1 }) := rfl

end Render

/-! ## Sessions in two scopes -/

/-- Two sessions in given scopes that are alike, over caches by way of which the same is found. -/
structure Session.Placed (library : Library) (alike : Scope → Scope → Prop) (scopes : Scope × Scope)
    (left right : Session) : Prop where
  alike : alike scopes.1 scopes.2
  leftScope : left.scope = scopes.1
  rightScope : right.scope = scopes.2
  caches : left.cache.Alike library right.cache

/-- The scopes inside a child that is entered on both sides. -/
def enterBoth (scopes : Scope × Scope) (bindings : Entries) (label : String) : Scope × Scope :=
  ((scopes.1.enter bindings label).2, (scopes.2.enter bindings label).2)

namespace Session.Placed

variable {library : Library} {alike : Scope → Scope → Prop} {scopes : Scope × Scope} {α : Type}
  {excused : Fault → Prop}

theorem withCache {work : Work Cache α}
    (agrees : Work.Agrees (Cache.Alike library) excused work work) :
    Work.Agrees (Placed library alike scopes) excused (Render.withCache work)
      (Render.withCache work) := by
  intro session session' placed
  rcases agrees _ _ placed.caches with failed | ⟨sameResult, caches⟩
  · exact .inl failed
  · exact .inr ⟨sameResult, placed.alike, placed.leftScope, placed.rightScope, caches⟩

/-- Inside a child the scopes are those of the child, and leaving it brings back the scopes around it. -/
theorem inChild (likeness : Scope.IsLikeness alike) (bindings : Entries) (label : String)
    {work work' : Render α}
    (agrees : Work.Agrees (Placed library alike (enterBoth scopes bindings label)) excused work
      work') :
    Work.Agrees (Placed library alike scopes) excused (Render.inChild bindings label work)
      (Render.inChild bindings label work') := by
  intro session session' placed
  obtain ⟨scope, scope'⟩ := scopes
  obtain ⟨areAlike, isScope, isScope', caches⟩ := placed
  have inside : Placed library alike (enterBoth (scope, scope') bindings label)
      { session with scope := (scope.enter bindings label).2 }
      { session' with scope := (scope'.enter bindings label).2 } :=
    ⟨likeness.enter _ _ areAlike _ _, rfl, rfl, caches⟩
  subst isScope isScope'
  rcases agrees _ _ inside with failed | ⟨sameResult, after⟩
  · exact .inl failed
  · refine .inr ⟨sameResult, areAlike, ?_, ?_, after.caches⟩
    · exact (congrArg (Scope.leave · _) after.leftScope).trans
        (session.scope.leave_enter bindings label)
    · exact (congrArg (Scope.leave · _) after.rightScope).trans
        (session'.scope.leave_enter bindings label)

end Session.Placed

/-! ## Renders -/

/-- Observing filters of a registry make the same of scopes that are alike. -/
def FilterRegistry.Respects (registry : FilterRegistry) (alike : Scope → Scope → Prop) : Prop :=
  ∀ spec ∈ registry.specs, ∀ run, spec.action = .observing run →
    ∀ scope scope', alike scope scope' → run scope = run scope'

/-- No filter of a registry observes the scope that it is called in. -/
def FilterRegistry.ObservesNothing (registry : FilterRegistry) : Prop :=
  ∀ spec ∈ registry.specs, ∀ run, spec.action ≠ .observing run

theorem FilterRegistry.ObservesNothing.respects {registry : FilterRegistry}
    (observesNothing : registry.ObservesNothing) (alike : Scope → Scope → Prop) :
    registry.Respects alike := by
  intro spec registered run observes
  exact absurd observes (observesNothing spec registered run)

/-- The filters that sites start with observe nothing. -/
theorem FilterRegistry.IsBuiltIn.observesNothing {registry : FilterRegistry}
    (builtIn : registry.IsBuiltIn) : registry.ObservesNothing := by
  have plain : ∀ spec ∈ markdownSpec :: standardSpecs, ∀ run, spec.action ≠ .observing run := by
    simp [markdownSpec, standardSpecs, standardSpec]
  intro spec registered run
  refine plain spec ?_ run
  rcases builtIn with standard | withMarkdown
  · rw [standard] at registered
    exact List.mem_cons_of_mem _ registered
  · rw [withMarkdown] at registered
    rcases List.mem_cons.1 registered with rfl | registered
    · exact List.mem_cons_self
    · exact List.mem_cons_of_mem _ (List.mem_filter.1 registered).1

theorem FilterRegistry.IsBuiltIn.respects {registry : FilterRegistry} (builtIn : registry.IsBuiltIn)
    (alike : Scope → Scope → Prop) : registry.Respects alike :=
  builtIn.observesNothing.respects alike

namespace Composer

/-- The same composer with another limit of nesting. -/
def withLimit (composer : Composer) (limit : Int) : Composer :=
  { composer with settings := { composer.settings with maxDepth := limit } }

/-- Composers that differ in their limits at most cannot tell scopes apart that are alike. -/
theorem agree_placed (composer : Composer) {alike : Scope → Scope → Prop} {excused : Fault → Prop}
    (likeness : Scope.IsLikeness alike) (respects : composer.registry.Respects alike)
    (blame : ∀ name fault, excused fault → excused (Composer.blame name fault)) (limit limit' : Int) :
    Agree (Session.Placed composer.library alike) enterBoth excused (composer.withLimit limit)
      (composer.withLimit limit') where
  filter _ := rfl
  binding := rfl
  blame := blame
  resolve := by
    intro name scopes session session' placed
    refine .inr ⟨?_, placed⟩
    have same := likeness.resolve _ _ placed.alike name
    rw [← placed.leftScope, ← placed.rightScope] at same
    exact congrArg Except.ok same
  observe := by
    intro spec registered run observes scopes session session' placed
    rw [placed.leftScope, placed.rightScope]
    exact respects spec registered run observes _ _ placed.alike
  page name _ := Session.Placed.withCache (Cache.Alike.getPage name _)
  inline text _ := Session.Placed.withCache (Cache.Alike.inlineNodes text)
  child _ bindings label _ _ agrees := Session.Placed.inChild likeness bindings label agrees

/-- Every composer agrees with itself in one and the same scope. -/
theorem agree_inPlace (composer : Composer) :
    Agree (Session.Placed composer.library Eq) enterBoth (fun _ => False) composer composer := by
  have respects : composer.registry.Respects Eq := by
    rintro spec - run - scope _ rfl
    rfl
  exact composer.agree_placed Scope.isLikeness_eq respects (fun _ _ isExcused => isExcused)
    composer.settings.maxDepth composer.settings.maxDepth

end Composer

/-- Nodes come to the same in scopes that are alike and with more levels, under whatever limit, unless they
go too deep. -/
theorem Composer.renderRow_placed {composer : Composer} {alike : Scope → Scope → Prop}
    (likeness : Scope.IsLikeness alike) (respects : composer.registry.Respects alike)
    (limit limit' : Int) {level level' : Nat} (more : level ≤ level') {nodes : List Node}
    {scopes : Scope × Scope} {session session' : Session}
    (placed : Session.Placed composer.library alike scopes session session')
    {outcome : Except Fault String}
    (isOutcome : ((composer.withLimit limit).renderRow ((composer.withLimit limit).below level) nodes
      session).1 = outcome)
    (notDeep : ∀ target, outcome ≠ .error (.tooDeep limit target)) :
    ((composer.withLimit limit').renderRow ((composer.withLimit limit').below level') nodes
        session').1 = outcome ∧
      Session.Placed composer.library alike scopes
        ((composer.withLimit limit).renderRow ((composer.withLimit limit).below level) nodes session).2
        ((composer.withLimit limit').renderRow ((composer.withLimit limit').below level') nodes
          session').2 := by
  let isDeep : Fault → Prop := fun fault => ∃ target, fault = .tooDeep limit target
  -- The limits are told apart by going too deep only, and no filter is blamed for that.
  have staysDeep : ∀ name fault, isDeep fault → isDeep (blame name fault) := by
    rintro name fault ⟨target, rfl⟩
    exact ⟨target, rfl⟩
  have agree : Agree (Session.Placed composer.library alike) enterBoth isDeep
      (composer.withLimit limit) (composer.withLimit limit') :=
    composer.agree_placed likeness respects staysDeep limit limit'
  have moreLevels := agree.levels_le (fun target => ⟨target, rfl⟩) more
  rcases agree.renderRow moreLevels nodes scopes session session' placed with
    ⟨fault, failed, target, rfl⟩ | ⟨same, after⟩
  · exact absurd (isOutcome.symm.trans failed) (notDeep target)
  · exact ⟨same.symm.trans isOutcome, after⟩

/-! ## What a render leaves -/

/-- Work that agrees with itself in one and the same scope leaves the scope as it has found it. -/
theorem Session.Placed.scope_kept {library : Library} {α : Type} {work : Render α}
    (agrees : ∀ scopes, Work.Agrees (Session.Placed library Eq scopes) (fun _ => False) work work)
    (session : Session) : (work session).2.scope = session.scope := by
  have placed : Session.Placed library Eq (session.scope, session.scope) session session :=
    ⟨rfl, rfl, rfl, .refl library session.cache⟩
  exact ((agrees _).same placed).2.leftScope

/-- One and the same session on both sides, over a cache by way of which the same is found as by way of a
given one. -/
structure Session.Reading (library : Library) (cache : Cache) (left right : Session) : Prop where
  same : left = right
  caches : left.cache.Alike library cache

namespace Session.Reading

variable {library : Library} {cache : Cache} {α : Type} {excused : Fault → Prop}

theorem withCache {work : Work Cache α} (leaves : ∀ cache, (work cache).2.Alike library cache) :
    Work.Agrees (Reading library cache) excused (Render.withCache work) (Render.withCache work) := by
  rintro session _ ⟨rfl, caches⟩
  exact .inr ⟨rfl, rfl, (leaves session.cache).trans caches⟩

theorem inChild (bindings : Entries) (label : String) {work work' : Render α}
    (agrees : Work.Agrees (Reading library cache) excused work work') :
    Work.Agrees (Reading library cache) excused (Render.inChild bindings label work)
      (Render.inChild bindings label work') := by
  rintro session _ ⟨rfl, caches⟩
  have inside : Reading library cache { session with scope := (session.scope.enter bindings label).2 }
      { session with scope := (session.scope.enter bindings label).2 } := ⟨rfl, caches⟩
  rw [Render.inChild_apply, Render.inChild_apply]
  rcases agrees _ _ inside with failed | ⟨sameResult, after⟩
  · exact .inl failed
  · refine .inr ⟨sameResult, ?_, after.caches⟩
    rw [after.same]

end Session.Reading

namespace Composer

/-- Whatever is read on the way would be found anyway. -/
theorem agree_reading (composer : Composer) (cache : Cache) :
    Agree (fun _ : Unit => Session.Reading composer.library cache) (fun _ _ _ => ()) (fun _ => False)
      composer composer where
  filter _ := rfl
  binding := rfl
  blame _ _ isExcused := isExcused
  resolve := by
    rintro name _ session _ ⟨rfl, caches⟩
    exact .inr ⟨rfl, rfl, caches⟩
  observe := by
    rintro spec - run - _ session _ ⟨rfl, -⟩
    rfl
  page name _ := Session.Reading.withCache (Cache.Alike.of_getPage composer.library name _)
  inline text _ := Session.Reading.withCache (Cache.Alike.of_inlineNodes composer.library text)
  child _ bindings label _ _ agrees := Session.Reading.inChild bindings label agrees

theorem renderNodes_leavesCache (composer : Composer) (level : Nat) (nodes : List Node)
    (session : Session) :
    (composer.renderNodes level nodes session).2.cache.Alike composer.library session.cache :=
  (((composer.agree_reading session.cache).renderNodes rfl level nodes ()).same
    ⟨rfl, .refl _ session.cache⟩).2.caches

theorem renderNodes_keepsScope (composer : Composer) (level : Nat) (nodes : List Node)
    (session : Session) :
    (composer.renderNodes level nodes session).2.scope = session.scope :=
  Session.Placed.scope_kept (composer.agree_inPlace.renderNodes rfl level nodes) session

end Composer

end Folio
