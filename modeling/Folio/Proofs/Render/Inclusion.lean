import Folio.Proofs.Render.Visibility

/-!
Contract: including a page as a partial, seen from outside.

Owns: what the stage gives that includes a page without arguments of its own, and that this is what the nodes
of the page give in the scope of the stage. The stage needs one level more than the nodes. A scope that has
more open children than the limit admits is none that a render gets into; there the stage is refused even
under the next limit, while nodes without a partial have a text.
-/

namespace Folio

open Folio.Template

/-! ## Texts in a scope -/

/-- The text of nodes in a scope. -/
def Composer.nodesText (composer : Composer) (scope : Scope) (nodes : List Node) : Work Cache String :=
  Composer.inScope scope (composer.renderNodes (composer.levelsBelow scope) nodes)

/-- The expression that includes a page by its name and hands over no arguments. -/
def partialOf (name : String) (line column : Int) : Pipeline :=
  ⟨.literal (.str name), [.mk partialName [] line column]⟩

/-! ## Names of pages -/

theorem Library.findPage_of_getPage {library : Library} {name kind : String} {cache : Cache}
    {page : Page} (found : (library.getPage name kind cache).1 = .ok page) :
    (library.findPage name cache).1 = .ok (some page) := by
  obtain ⟨result, isFound, isPage⟩ := Work.of_bind_eq_ok found
  cases result with
  | none => cases isPage
  | some page' =>
      cases isPage
      exact isFound

/-- What a page is wanted for does not matter if it is there. -/
theorem Library.getPage_of_findPage {library : Library} {name : String} {cache : Cache} {page : Page}
    (found : (library.findPage name cache).1 = .ok (some page)) (kind : String) :
    library.getPage name kind cache = (.ok page, (library.findPage name cache).2) := by
  unfold getPage
  rw [Work.bind_apply]
  rcases isFound : library.findPage name cache with ⟨outcome, after⟩
  rw [isFound] at found
  cases found
  rfl

/-- A page that has been read is got by any of its names. -/
theorem Library.getPage_of_cached {library : Library} {name id : String} {cache : Cache} {page : Page}
    (isId : library.pageId name = .ok id) (isCached : cache.page? id = some page) (kind : String) :
    (library.getPage name kind cache).1 = .ok page := by
  have found : (library.findPage name cache).1 = .ok (some page) := by
    unfold findPage
    rw [isId]
    dsimp only
    rw [pageWithId_result, isCached]
  rw [getPage_of_findPage found]

/-- The empty text is the name of no page. -/
theorem Library.name_ne_empty {library : Library} {name : String} {cache : Cache} {page : Page}
    (found : (library.findPage name cache).1 = .ok (some page)) : name ≠ "" := by
  rintro rfl
  have refused : library.pageId "" = .error .emptyPath := by
    unfold pageId
    have empty : Path.normalize "" = .error .emptyPath := by decide
    rw [empty]
    rfl
  unfold findPage at found
  rw [refused] at found
  cases found

/-! ## The stage -/

namespace Composer

variable {composer : Composer} {name kind : String} {page : Page} {cache : Cache}

/-- The stage alone makes the value of the expression. -/
theorem value_partialOf (composer : Composer) (scope : Scope) (line column : Int) :
    (composer.value scope (partialOf name line column) cache).1 =
      (composer.call (composer.below (composer.levelsBelow scope)) partialName (.str name) []
        ⟨scope, cache⟩).1 := by
  change ((composer.call _ partialName (.str name) [] >>= pure) _).1 = _
  rw [Work.bind_apply]
  rcases composer.call (composer.below (composer.levelsBelow scope)) partialName (.str name) []
    ⟨scope, cache⟩ with ⟨outcome, after⟩
  cases outcome <;> rfl

theorem includeArguments_name (named : name ≠ "") :
    includeArguments (.str name) [] = .ok (name, []) := by
  unfold includeArguments
  dsimp only
  rw [if_neg (by simpa using named)]
  rfl

/-- Including a page without arguments of its own renders it in a child that binds nothing. -/
theorem includePage_plain (found : (composer.library.findPage name cache).1 = .ok (some page))
    (plain : page.arguments = []) (render : List Node → Render String) (scope : Scope) :
    composer.includePage (some render) name [] ⟨scope, cache⟩ =
      Render.inChild [] ("partial:" ++ page.id) (render page.nodes)
        ⟨scope, (composer.library.findPage name cache).2⟩ := by
  have isFound := Library.getPage_of_findPage found Library.partialKind
  change (Render.withCache (composer.library.getPage name Library.partialKind) >>= fun page =>
    Render.inChild (Entries.overlay page.arguments []) ("partial:" ++ page.id) (render page.nodes))
      ⟨scope, cache⟩ = _
  rw [Work.bind_apply, Render.withCache_apply]
  dsimp only
  rw [isFound]
  dsimp only
  rw [plain]
  rfl

theorem act_includePage {value : Value} {arguments : List Value} {entries : Entries} {below : Below}
    (taken : includeArguments value arguments = .ok (name, entries)) :
    composer.act below .includePage value arguments =
      composer.includePage below name entries >>= fun text => pure (.str text) := by
  unfold act
  dsimp only
  rw [taken]
  rfl

/-- The stage takes one argument at most, and is blamed for what goes wrong in it. -/
theorem call_includePage
    (isPartial : composer.registry.find? partialName = FilterRegistry.standard.find? partialName)
    {arguments : List Value} (atMostOne : arguments.length ≤ 1) (below : Below) (value : Value) :
    composer.call below partialName value arguments =
      tryCatch (composer.act below .includePage value arguments) fun fault => throw (blame partialName fault) := by
  unfold call
  rw [isPartial]
  match arguments with
  | [] => rfl
  | [_] => rfl
  | _ :: _ :: _ => simp at atMostOne

/-- The stage renders a page without arguments of its own one level below, in a child that binds nothing.
Where there is no level below it is refused. -/
theorem call_partial
    (isPartial : composer.registry.find? partialName = FilterRegistry.standard.find? partialName)
    (found : (composer.library.findPage name cache).1 = .ok (some page)) (plain : page.arguments = [])
    (below : Below) (scope : Scope) :
    (composer.call below partialName (.str name) [] ⟨scope, cache⟩).1 =
      match below with
      | none => .error (.tooDeep composer.settings.maxDepth name)
      | some render =>
          ((render page.nodes ⟨(scope.enter [] ("partial:" ++ page.id)).2,
            (composer.library.findPage name cache).2⟩).1.map Value.str).mapError (blame partialName) := by
  have taken := includeArguments_name (Library.name_ne_empty found)
  rw [call_includePage isPartial (by simp), Work.rename_apply, act_includePage taken, Work.bind_apply]
  cases below with
  | none => rfl
  | some render =>
      rw [includePage_plain found plain]
      unfold Render.inChild
      dsimp only
      rcases render page.nodes ⟨(scope.enter [] ("partial:" ++ page.id)).2,
        (composer.library.findPage name cache).2⟩ with ⟨outcome, after⟩
      cases outcome <;> rfl

/-! ## Inside and outside -/

/-- The child of the stage looks like what is around it, over the cache behind finding the page. -/
theorem placed_inChild (library : Library) (name label : String) (scope : Scope) (cache : Cache) :
    Session.Placed library Scope.SameBindings ((scope.enter [] label).2, scope)
      ⟨(scope.enter [] label).2, (library.findPage name cache).2⟩ ⟨scope, cache⟩ where
  alike := scope.sameBindings_enter_nil label
  leftScope := rfl
  rightScope := rfl
  caches := .of_findPage library name cache

theorem placed_aroundChild (library : Library) (name label : String) (scope : Scope) (cache : Cache) :
    Session.Placed library Scope.SameBindings (scope, (scope.enter [] label).2)
      ⟨scope, cache⟩ ⟨(scope.enter [] label).2, (library.findPage name cache).2⟩ where
  alike := (scope.sameBindings_enter_nil label).symm
  leftScope := rfl
  rightScope := rfl
  caches := (Cache.Alike.of_findPage library name cache).symm

/-- A page that the stage has rendered has the same text one level higher. -/
theorem nodesText_of_value
    (isPartial : composer.registry.find? partialName = FilterRegistry.standard.find? partialName)
    (respects : composer.registry.Respects Scope.SameBindings)
    (found : (composer.library.findPage name cache).1 = .ok (some page)) (plain : page.arguments = [])
    (scope : Scope) (line column : Int) {value : Value}
    (succeeded : (composer.value scope (partialOf name line column) cache).1 = .ok value) :
    ∃ text, value = .str text ∧ (composer.nodesText scope page.nodes cache).1 = .ok text := by
  rw [value_partialOf, call_partial isPartial found plain] at succeeded
  cases isLevel : composer.levelsBelow scope with
  | zero =>
      rw [isLevel] at succeeded
      cases succeeded
  | succ level =>
      rw [isLevel] at succeeded
      have placed := placed_inChild composer.library name ("partial:" ++ page.id) scope cache
      have succeededInside := mapError_eq_ok.1 succeeded
      cases inside : (composer.renderRow (composer.below level) page.nodes
          ⟨(scope.enter [] ("partial:" ++ page.id)).2, (composer.library.findPage name cache).2⟩).1 with
      | error fault =>
          rw [inside] at succeededInside
          cases succeededInside
      | ok text =>
          rw [inside] at succeededInside
          cases succeededInside
          refine ⟨text, rfl, ?_⟩
          have outside := (renderRow_placed Scope.isLikeness_sameBindings respects
            composer.settings.maxDepth composer.settings.maxDepth (Nat.le_succ level) placed inside
            (fun _ => nofun)).1
          unfold nodesText
          rw [isLevel]
          exact outside

/-- What nodes come to under a limit, the stage comes to under the next one, as long as it is not too
deep. -/
theorem value_of_nodesText
    (isPartial : composer.registry.find? partialName = FilterRegistry.standard.find? partialName)
    (respects : composer.registry.Respects Scope.SameBindings)
    (found : (composer.library.findPage name cache).1 = .ok (some page)) (plain : page.arguments = [])
    (scope : Scope) (line column : Int) {limit : Int} (fits : scope.nesting ≤ limit)
    {outcome : Except Fault String}
    (isOutcome : ((composer.withLimit limit).nodesText scope page.nodes cache).1 = outcome)
    (notDeep : ∀ target, outcome ≠ .error (.tooDeep limit target)) :
    ((composer.withLimit (limit + 1)).value scope (partialOf name line column) cache).1 =
      (outcome.map Value.str).mapError (blame partialName) := by
  have isLevel : (composer.withLimit (limit + 1)).levelsBelow scope =
      (composer.withLimit limit).levelsBelow scope + 1 := by
    change (limit + 1 - scope.nesting).toNat = (limit - scope.nesting).toNat + 1
    omega
  have placed := placed_aroundChild composer.library name ("partial:" ++ page.id) scope cache
  have inside := (renderRow_placed Scope.isLikeness_sameBindings respects limit (limit + 1)
    (Nat.le_refl ((composer.withLimit limit).levelsBelow scope)) placed isOutcome notDeep).1
  have isStage := @call_partial (composer.withLimit (limit + 1)) name page cache isPartial found plain
  rw [value_partialOf, isStage, isLevel]
  exact congrArg (fun result => (Except.map Value.str result).mapError (blame partialName)) inside

end Composer

end Folio
