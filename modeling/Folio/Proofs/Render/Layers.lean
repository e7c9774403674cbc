import Folio.Proofs.Render.Congruence
import Folio.Proofs.Value.Entries

/-!
Contract: the names that a page and its layout see.

Owns: the arguments of the site, the layout, the page and the render as layers of one mapping; that the frames
of a page bind the names of this mapping, and those of a layout the same with the body of the page over them;
and the law that a render of a page is a render of its body and one of its layout, each in a scope of a
single frame.

Does not own: which layout a page has.
-/

namespace Folio

open Folio.Template

namespace Composer

/-! ## Layers -/

/-- All names of a page in one mapping. Later layers win: those of the layout over those of the site, those of
the page over both, and those of the render over all. -/
def layers (composer : Composer) (page : Page) (layout : Option Page) (arguments : Entries) : Entries :=
  let dressed :=
    match layout with
    | some layout => Entries.overlay composer.settings.arguments layout.arguments
    | none => composer.settings.arguments
  Entries.overlay (Entries.overlay dressed page.arguments) arguments

/-- The text of nodes where a mapping says what names stand for. -/
def flatText (composer : Composer) (names : Entries) (nodes : List Node) : Work Cache String :=
  composer.nodesText (.ofRoot names rootLabel) nodes

/-- The body under the names of the page, and the layout under the same names with the body among them. -/
def layeredText (composer : Composer) (page : Page) (layout : Option Page) (arguments : Entries) :
    Work Cache String := do
  let names := composer.layers page layout arguments
  let body ← composer.flatText names page.nodes
  match layout with
  | none => return body
  | some layout => composer.flatText (names.put (.str bodyName) (.str body)) layout.nodes

variable {composer : Composer} {page : Page} {layout : Option Page} {arguments : Entries}

/-- The frames of a page bind what its layers have, however many of them bind a name. -/
theorem sameNames_layers (pageMapping : page.arguments.IsMapping)
    (layoutMapping : ∀ dress ∈ layout, dress.arguments.IsMapping) (mapping : arguments.IsMapping) :
    (composer.pageScope page layout arguments).SameNames
      (.ofRoot (composer.layers page layout arguments) rootLabel) := by
  intro name
  cases layout with
  | none =>
      simp only [pageScope, layers, Scope.resolve_extend, Scope.resolve_ofRoot,
        Entries.at?_overlay _ mapping, Entries.at?_overlay _ pageMapping]
  | some dress =>
      have dressMapping := layoutMapping dress rfl
      simp only [pageScope, layers, Scope.resolve_extend, Scope.resolve_ofRoot,
        Entries.at?_overlay _ mapping, Entries.at?_overlay _ pageMapping,
        Entries.at?_overlay _ dressMapping]

/-- One more frame with one binding is one more entry. -/
theorem sameNames_put {scope : Scope} {names : Entries} {label : String}
    (same : scope.SameNames (.ofRoot names label)) (bound : String) (value : Value)
    (frameLabel : String) :
    (scope.extend [(.str bound, value)] frameLabel).SameNames
      (.ofRoot (names.put (.str bound) value) label) := by
  intro name
  rw [Scope.resolve_extend, same name, Scope.resolve_ofRoot, Scope.resolve_ofRoot, Entries.at?_put,
    Entries.at?_cons]
  by_cases isName : (Value.str bound).sameKey (.str name) = true
  · rw [if_pos isName, if_pos isName]
    rfl
  · rw [if_neg isName, if_neg isName]
    rfl

/-! ## The render of a page in one scope -/

/-- Work that leaves the scope as it is hands it on to the work behind it. -/
theorem inScope_bind {α β : Type} (scope : Scope) {first : Render α} {next : α → Render β}
    (keepsScope : ∀ session, (first session).2.scope = session.scope) :
    inScope scope (first >>= next) = inScope scope first >>= fun result => inScope scope (next result) := by
  funext cache
  have sameScope := keepsScope ⟨scope, cache⟩
  rw [Work.bind_apply]
  unfold inScope
  rw [Work.bind_apply]
  rcases isFirst : first ⟨scope, cache⟩ with ⟨outcome, scope', cache'⟩
  rw [isFirst] at sameScope
  cases sameScope
  cases outcome with
  | ok result => rfl
  | error fault => rfl

/-- The layout comes behind the body, in the scope of the page with a frame for the body. -/
theorem inScope_renderInLayout (scope : Scope) (notNested : scope.nesting = 0) :
    inScope scope (composer.renderInLayout page layout) =
      composer.nodesText scope page.nodes >>= fun body =>
        match layout with
        | none => pure body
        | some layout =>
            composer.nodesText (scope.extend [(.str bodyName, .str body)] "layout-body") layout.nodes := by
  have levels : composer.levelsBelow scope = composer.levelsBelow .empty :=
    composer.levelsBelow_eq notNested
  have bodyLevels : ∀ body : String,
      composer.levelsBelow (scope.extend [(.str bodyName, .str body)] "layout-body") =
        composer.levelsBelow .empty :=
    fun _ => levels
  unfold renderInLayout
  rw [inScope_bind scope (composer.renderNodes_keepsScope _ page.nodes)]
  unfold nodesText
  rw [levels]
  cases layout with
  | none => rfl
  | some dress =>
      simp only [bodyLevels]
      rfl

section Laws

variable (observesNothing : composer.registry.ObservesNothing) (pageMapping : page.arguments.IsMapping)
  (layoutMapping : ∀ dress ∈ layout, dress.arguments.IsMapping) (mapping : arguments.IsMapping)

include observesNothing pageMapping layoutMapping mapping

/-- Body and layout see the layers, since neither leaves a trace in the scope. -/
theorem layeredText_agrees :
    Work.Agrees (Cache.Alike composer.library) (fun _ => False)
      (inScope (composer.pageScope page layout arguments) (composer.renderInLayout page layout))
      (composer.layeredText page layout arguments) := by
  -- All frames of a page are put down before its body renders, and none of them is a child.
  have notNested : (composer.pageScope page layout arguments).nesting = 0 := by
    cases layout <;> rfl
  have sameNames : (composer.pageScope page layout arguments).SameNames _ :=
    sameNames_layers pageMapping layoutMapping mapping
  rw [inScope_renderInLayout _ notNested]
  refine .bind (nodesText_agrees observesNothing sameNames notNested page.nodes) ?_
  intro body
  cases layout with
  | none => exact .pure body
  | some dress =>
      have dressedNames := sameNames_put sameNames bodyName (.str body) "layout-body"
      exact nodesText_agrees observesNothing dressedNames notNested dress.nodes

end Laws

/-! ## Layouts that show the body alone -/

/-- The node that shows the body of a page. -/
def bodyNode (source : String) (line column : Int) : Node :=
  .expression ⟨.path bodyName [], []⟩ source line column

/-- The body hides whatever else has its name. -/
theorem flatText_bodyNode (composer : Composer) (names : Entries) (body source : String)
    (line column : Int) (cache : Cache) :
    (composer.flatText (names.put (.str bodyName) (.str body)) [bodyNode source line column] cache).1 =
      .ok body := by
  have found : (Scope.ofRoot (names.put (.str bodyName) (.str body)) rootLabel).resolve bodyName =
      some (.str body) := by
    rw [Scope.resolve_ofRoot, Entries.at?_put, if_pos (Value.sameKey_name.2 rfl)]
  unfold flatText nodesText inScope renderNodes bodyNode
  simp only [renderRow, renderNode, evaluatePipeline, evaluate, Work.bind_apply, Render.resolve, found,
    followSegments, runStages, Work.pure_apply, Work.ofExcept_apply]
  show Except.ok (body ++ "") = .ok body
  rw [String.append_empty]

/-- The render of a page by layers. With the layout that has been found for it, if any, a page without
observing filters comes to what its body comes to where one mapping has all names, and to what the layout
comes to where the same mapping has the body under its own name. So a layout that shows the body alone gives
the body unchanged, whatever else is called like it. -/
theorem renderPage_layers (observesNothing : composer.registry.ObservesNothing)
    (pageMapping : page.arguments.IsMapping) (mapping : arguments.IsMapping) {cache between : Cache}
    (found : composer.library.findLayout page composer.settings.layoutName cache = (.ok layout, between))
    (layoutMapping : ∀ dress ∈ layout, dress.arguments.IsMapping) :
    (composer.renderPage page arguments cache).1 =
        (composer.layeredText page layout arguments between).1 ∧
      ∀ dress ∈ layout, ∀ source line column, dress.nodes = [bodyNode source line column] →
        (composer.renderPage page arguments cache).1 =
          (composer.flatText (composer.layers page layout arguments) page.nodes between).1 := by
  have agrees := layeredText_agrees observesNothing pageMapping layoutMapping mapping
  have isLayered : (composer.renderPage page arguments cache).1 =
      (composer.layeredText page layout arguments between).1 := by
    unfold renderPage
    rw [Work.bind_apply, found]
    exact (agrees.same (.refl composer.library between)).1
  refine ⟨isLayered, ?_⟩
  intro dress isLayout source line column showsBody
  obtain rfl := Option.mem_def.1 isLayout
  rw [isLayered]
  unfold layeredText
  rw [Work.bind_apply]
  rcases composer.flatText (composer.layers page (some dress) arguments) page.nodes between with
    ⟨outcome, behind⟩
  cases outcome with
  | error fault => rfl
  | ok body =>
      dsimp only
      rw [showsBody]
      exact composer.flatText_bodyNode _ body source line column behind

/-- The law for a page in a layout that shows the body alone, where front matter and arguments have the name
of the body too, and an explicit `null` of the page hides what the site and the layout say. -/
theorem renderPage_layers_at_body :
    let settings : Settings := { Settings.default with arguments := [(.str "x", .str "site")] }
    let composer : Composer := ⟨settings, ⟨.memory [], ".html"⟩, .standard⟩
    let layout : Page := ⟨"base", "base.html",
      [(.str "x", .str "layout"), (.str "y", .str "layout")], none, [bodyNode "page" 1 3]⟩
    let page : Page := ⟨"p", "p.html", [(.str "page", .str "front"), (.str "x", .null)], some "base",
      [.literal "<", .expression ⟨.path "x" [], []⟩ "x" 1 4, .expression ⟨.path "y" [], []⟩ "y" 1 9]⟩
    let arguments : Entries := [(.str "page", .str "argument")]
    let cache : Cache := ⟨[("base", layout)], []⟩
    composer.registry.ObservesNothing ∧ page.arguments.IsMapping ∧ arguments.IsMapping ∧
      composer.library.findLayout page composer.settings.layoutName cache = (.ok (some layout), cache) ∧
      layout.arguments.IsMapping ∧
      (composer.renderPage page arguments cache).1 = .ok "<layout" := by
  intro settings composer layout page arguments cache
  have observesNothing : composer.registry.ObservesNothing :=
    FilterRegistry.IsBuiltIn.observesNothing (.inl rfl)
  have isId : composer.library.pageId "base" = .ok "base" := by decide +kernel
  have isNames : Library.layoutNames page.folder "base" = ["base"] := by decide +kernel
  have isPage : composer.library.findPage "base" cache = (.ok (some layout), cache) := by
    unfold Library.findPage
    rw [isId]
    rfl
  have found : composer.library.findLayout page composer.settings.layoutName cache =
      (.ok (some layout), cache) := by
    have first : composer.library.firstPage ["base"] cache = (.ok (some layout), cache) := by
      rw [Library.firstPage, Work.bind_apply, isPage]
      rfl
    show (composer.library.firstPage (Library.layoutNames page.folder "base") >>= _) cache = _
    rw [isNames, Work.bind_apply, first]
    rfl
  have pageMapping : page.arguments.IsMapping := by decide
  have mapping : arguments.IsMapping := by decide
  have layoutMapping : layout.arguments.IsMapping := by decide
  refine ⟨observesNothing, pageMapping, mapping, found, layoutMapping, ?_⟩
  have shown := (renderPage_layers observesNothing pageMapping mapping found
    (by rintro _ ⟨⟩; exact layoutMapping)).2 layout rfl "page" 1 3 rfl
  rw [shown]
  decide +kernel

end Composer

end Folio
