import Folio.Audit
import Folio.Proofs.Render.Transparency

/-!
Contract: what a site has done does not show in its renders.

Owns: the operations on a site and their runs; the order in which files may change and pages may be read;
the invariant that such runs keep; and that a render after any of them gives what a new site would give.

Does not own: runs that read pages between a change of a file and giving up what has been read.
-/

namespace Folio

open Folio.Template

/-! ## Operations -/

/-- One operation on a site. A page that is rendered may have been read at any time, or never. -/
inductive SiteMove where
  | findPage (name : String)
  | getPage (name kind : String)
  | findLayout (page : Page)
  | inlineNodes (text : String)
  | audit
  | render (name : String) (arguments : Entries)
  | renderPage (page : Page) (arguments : Entries)
  | renderText (text : String) (arguments : Entries)
  | renderOnce (text : String) (arguments : Entries)
  | pageIds
  | fileText (path : String)
  | prepare
  | register (name : String) (offer : FilterOffer)
  | writeFile (path text : String)
  | deleteFile (path : String)
  | forget (name : Option String)

namespace SiteMove

/-- The site behind an operation, whether it was done or failed. -/
def after (site : Site) : SiteMove → Site
  | .findPage name => (Site.findPage name site).2
  | .getPage name kind => (Site.getPage name kind site).2
  | .findLayout page => (Site.findLayout page site).2
  | .inlineNodes text => (Site.inlineNodes text site).2
  | .audit => (Folio.audit site).2
  | .render name arguments => (Site.render name arguments site).2
  | .renderPage page arguments => (Site.renderPage page arguments site).2
  | .renderText text arguments => (Site.renderText text arguments site).2
  | .renderOnce text arguments => (Site.renderOnce text arguments site).2
  | .pageIds => (Site.pageIds site).2
  | .fileText path => (Site.fileText path site).2
  | .prepare => (Site.prepare site).2
  | .register name offer => (Site.register name offer site).2
  | .writeFile path text => (Site.writeFile path text site).2
  | .deleteFile path => (Site.deleteFile path site).2
  | .forget name => (Site.forget name site).2

/-- Looks for pages or inline templates among those that have been read. -/
def isReading : SiteMove → Bool
  | .findPage _ | .getPage _ _ | .findLayout _ | .inlineNodes _ | .audit | .render _ _
  | .renderPage _ _ | .renderText _ _ | .renderOnce _ _ => true
  | _ => false

/-- Whether a file may have changed since everything was given up. -/
def isStaleAfter (stale : Bool) : SiteMove → Bool
  | .writeFile _ _ | .deleteFile _ => true
  | .forget none => false
  | _ => stale

/-- Between a change of a file and the next reading everything is given up. -/
def areOrderly (stale : Bool) : List SiteMove → Bool
  | [] => true
  | move :: moves => !(stale && move.isReading) && areOrderly (move.isStaleAfter stale) moves

end SiteMove

/-- The site behind a run of operations. -/
def Site.run (site : Site) (moves : List SiteMove) : Site :=
  moves.foldl SiteMove.after site

/-! ## What readings keep -/

/-- What a site is made of, apart from what it has read. -/
structure Site.SameMakeup (site other : Site) : Prop where
  library : other.library = site.library
  settings : other.settings = site.settings
  filters : other.registry.specs = site.registry.specs

theorem Site.SameMakeup.refl (site : Site) : site.SameMakeup site := ⟨rfl, rfl, rfl⟩

theorem Site.SameMakeup.trans {first second third : Site} (same : first.SameMakeup second)
    (same' : second.SameMakeup third) : first.SameMakeup third :=
  ⟨same'.library.trans same.library, same'.settings.trans same.settings,
    same'.filters.trans same.filters⟩

/-- Work that keeps the files, the settings, the filters and the faith of the cache. -/
def Site.Keeps {α : Type} (work : Work Site α) : Prop :=
  ∀ site, site.cache.Faithful site.library →
    site.SameMakeup (work site).2 ∧ (work site).2.cache.Faithful site.library

namespace Site.Keeps

variable {α β : Type}

theorem ofExcept (result : Except Fault α) : Keeps (Work.ofExcept result) :=
  fun site faithful => ⟨.refl site, faithful⟩

theorem prepare : Keeps Site.prepare :=
  fun _ faithful => ⟨⟨rfl, rfl, rfl⟩, faithful⟩

theorem withCache {work : Site → Work Cache α}
    (blind : ∀ site : Site, Blind site.library (work site)) : Keeps (Site.withCache work) :=
  fun site faithful => ⟨⟨rfl, rfl, rfl⟩, (blind site site.cache faithful).2⟩

theorem bind {work : Work Site α} {next : α → Work Site β} (keeps : Keeps work)
    (nextKeeps : ∀ value, Keeps (next value)) : Keeps (work >>= next) := by
  intro site faithful
  rw [Work.bind_apply]
  have kept := keeps site faithful
  rcases isWork : work site with ⟨outcome, between⟩
  rw [isWork] at kept
  cases outcome with
  | error fault => exact kept
  | ok value =>
      obtain ⟨same, stillFaithful⟩ := kept
      have later := nextKeeps value between (same.library ▸ stillFaithful)
      rw [same.library] at later
      exact ⟨same.trans later.1, later.2⟩

theorem findPage (name : String) : Keeps (Site.findPage name) :=
  withCache fun site => .of_settled (site.library.findPage_settled name)

theorem getPage (name kind : String) : Keeps (Site.getPage name kind) :=
  withCache fun site => .of_settled (site.library.getPage_settled name kind)

theorem renderPage (page : Page) (arguments : Entries) : Keeps (Site.renderPage page arguments) :=
  bind prepare fun _ => withCache fun site => site.composer.renderPage_blind page arguments

theorem render (name : String) (arguments : Entries) : Keeps (Site.render name arguments) :=
  bind (getPage name _) fun page => renderPage page arguments

theorem renderText (text : String) (arguments : Entries) :
    Keeps (Site.renderText text arguments) :=
  bind prepare fun _ => withCache fun site => site.composer.renderText_blind text arguments

theorem renderOnce (text : String) (arguments : Entries) :
    Keeps (Site.renderOnce text arguments) :=
  bind (ofExcept _) fun page => bind (renderPage page arguments) fun _ => ofExcept (.ok _)

theorem pageProblems (id : String) : Keeps (Folio.pageProblems id) := by
  intro site faithful
  have kept := getPage id Library.pageKind site faithful
  unfold Folio.pageProblems
  rcases isRead : Site.getPage id Library.pageKind site with ⟨outcome, after⟩
  rw [isRead] at kept
  cases outcome with
  | ok page => exact kept
  | error fault =>
      dsimp only
      split
      · exact kept
      · exact kept

theorem problemsOf (ids : List String) : Keeps (Folio.problemsOf ids) := by
  induction ids with
  | nil => exact ofExcept (.ok [])
  | cons id ids inductionHypothesis =>
      exact bind (pageProblems id) fun _ => bind inductionHypothesis fun _ => ofExcept (.ok _)

theorem audit : Keeps Folio.audit :=
  bind (fun site faithful => ⟨.refl site, faithful⟩) fun ids =>
    bind (problemsOf ids) fun _ => ofExcept (.ok _)

end Site.Keeps

/-- What a reading does to a site, whether it succeeds or fails. -/
theorem SiteMove.after_reading {move : SiteMove} (isReading : move.isReading = true) {site : Site}
    (faithful : site.cache.Faithful site.library) :
    site.SameMakeup (move.after site) ∧ (move.after site).cache.Faithful site.library := by
  cases move with
  | findPage name => exact Site.Keeps.findPage name site faithful
  | getPage name kind => exact Site.Keeps.getPage name kind site faithful
  | findLayout page =>
      exact Site.Keeps.withCache (fun site => site.library.findLayout_blind page _) site faithful
  | inlineNodes text =>
      exact Site.Keeps.withCache
        (fun site => .of_settled (inlineNodes_settled site.library text)) site faithful
  | audit => exact Site.Keeps.audit site faithful
  | render name arguments => exact Site.Keeps.render name arguments site faithful
  | renderPage page arguments => exact Site.Keeps.renderPage page arguments site faithful
  | renderText text arguments => exact Site.Keeps.renderText text arguments site faithful
  | renderOnce text arguments => exact Site.Keeps.renderOnce text arguments site faithful
  | _ => cases isReading

/-- A run of readings changes nothing but what has been read. -/
theorem Site.run_readings {moves : List SiteMove} (readings : ∀ move ∈ moves, move.isReading = true)
    {site : Site} (faithful : site.cache.Faithful site.library) :
    site.SameMakeup (site.run moves) ∧ (site.run moves).cache.Faithful site.library := by
  induction moves generalizing site with
  | nil => exact ⟨.refl site, faithful⟩
  | cons move moves inductionHypothesis =>
      obtain ⟨isReading, others⟩ := List.forall_mem_cons.1 readings
      obtain ⟨same, stillFaithful⟩ := move.after_reading isReading faithful
      have later := inductionHypothesis others (same.library ▸ stillFaithful)
      rw [same.library] at later
      exact ⟨same.trans later.1, later.2⟩

/-! ## The invariant of orderly runs -/

/-- The pages of the site are found by its settings, and unless a file may have changed its cache is
faithful. -/
structure Site.Sound (stale : Bool) (site : Site) : Prop where
  extension : site.library.extension = site.settings.pageExtension
  cache : stale = false → site.cache.Faithful site.library

namespace Site.Sound

variable {stale : Bool} {site : Site}

theorem new (settings : Settings) (source : Source) (registry : FilterRegistry) :
    (Site.new settings source registry).Sound false where
  extension := rfl
  cache _ := .empty _

/-- A reading is in order where no file may have changed. -/
theorem reading (sound : site.Sound stale) {move : SiteMove} (isReading : move.isReading = true)
    (inOrder : (stale && move.isReading) = false) : (move.after site).Sound stale := by
  rw [isReading, Bool.and_true] at inOrder
  subst inOrder
  obtain ⟨same, faithful⟩ := move.after_reading isReading (sound.cache rfl)
  refine ⟨?_, fun _ => ?_⟩
  · rw [same.library, same.settings]
    exact sound.extension
  · rwa [same.library]

/-- A site whose pages are given up is sound whatever has happened to its files. -/
theorem forget (sound : site.Sound stale) (name : Option String) :
    (Site.forget name site).2.Sound ((SiteMove.forget name).isStaleAfter stale) := by
  cases name with
  | none => exact ⟨sound.extension, fun _ => .empty _⟩
  | some name =>
      refine ⟨sound.extension, fun isFresh => ?_⟩
      have faithful := sound.cache isFresh
      simp only [Site.forget, Site.withCache, Library.forget]
      cases site.library.pageId name with
      | ok id => exact faithful.withoutPage id
      | error cause => exact faithful

/-- Changing files changes nothing but the files, which leaves the cache behind. -/
theorem writeFile (sound : site.Sound stale) (path text : String) :
    (Site.writeFile path text site).2.Sound true := by
  unfold Site.writeFile
  split
  · exact ⟨sound.extension, nofun⟩
  · exact ⟨sound.extension, nofun⟩

theorem deleteFile (sound : site.Sound stale) (path : String) :
    (Site.deleteFile path site).2.Sound true := by
  unfold Site.deleteFile
  split
  · exact ⟨sound.extension, nofun⟩
  · exact ⟨sound.extension, nofun⟩

theorem register (sound : site.Sound stale) (name : String) (offer : FilterOffer) :
    (Site.register name offer site).2.Sound stale := by
  unfold Site.register
  split
  · exact ⟨sound.extension, sound.cache⟩
  · exact sound

/-- One operation that is in order keeps the invariant. -/
theorem step (sound : site.Sound stale) {move : SiteMove}
    (inOrder : (stale && move.isReading) = false) :
    (move.after site).Sound (move.isStaleAfter stale) := by
  cases move with
  | pageIds | fileText => exact sound
  | prepare => exact ⟨sound.extension, sound.cache⟩
  | register name offer => exact sound.register name offer
  | writeFile path text => exact sound.writeFile path text
  | deleteFile path => exact sound.deleteFile path
  | forget name => exact sound.forget name
  | findPage | getPage | findLayout | inlineNodes | audit | render | renderPage | renderText
  | renderOnce => exact sound.reading rfl inOrder

/-- A run in order keeps the invariant; its last word on the files is what `stale` starts the rest with. -/
theorem run {before behind : List SiteMove} (sound : site.Sound stale)
    (inOrder : SiteMove.areOrderly stale (before ++ behind) = true) :
    ∃ stale', (site.run before).Sound stale' ∧ SiteMove.areOrderly stale' behind = true := by
  induction before generalizing site stale with
  | nil => exact ⟨stale, sound, inOrder⟩
  | cons move before inductionHypothesis =>
      rw [List.cons_append, SiteMove.areOrderly, Bool.and_eq_true, Bool.not_eq_true'] at inOrder
      exact inductionHypothesis (sound.step inOrder.1) inOrder.2

end Site.Sound

/-! ## Renders after a run -/

namespace Site

/-- The composer of a render, whose filters are frozen. -/
def frozenComposer (site : Site) : Composer :=
  ⟨site.settings, site.library, site.registry.freeze⟩

theorem getPage_apply (site : Site) (name kind : String) :
    getPage name kind site =
      ((site.library.getPage name kind site.cache).1,
        { site with cache := (site.library.getPage name kind site.cache).2 }) := rfl

theorem render_eq (site : Site) (name : String) (arguments : Entries) :
    (render name arguments site).1 =
      ((site.library.getPage name Library.pageKind >>= fun page =>
        site.frozenComposer.renderPage page arguments) site.cache).1 := by
  change ((Site.getPage name Library.pageKind >>= fun page => renderPage page arguments) site).1 = _
  rw [Work.bind_apply, Work.bind_apply]
  rw [getPage_apply]
  rcases site.library.getPage name Library.pageKind site.cache with ⟨outcome, cache⟩
  cases outcome with
  | ok page => rfl
  | error fault => rfl

theorem renderText_eq (site : Site) (text : String) (arguments : Entries) :
    (renderText text arguments site).1 =
      (site.frozenComposer.renderText text arguments site.cache).1 := rfl

/-- A site without a history: the same settings and filters over the files as they are now. -/
def renewed (site : Site) : Site :=
  new site.settings site.library.source site.registry

theorem Sound.frozenComposer_renewed {stale : Bool} {site : Site} (sound : site.Sound stale) :
    site.renewed.frozenComposer = site.frozenComposer := by
  unfold frozenComposer renewed Site.new
  rw [← sound.extension]

theorem Sound.render_renewed {site : Site} (sound : site.Sound false) (name : String)
    (arguments : Entries) :
    (render name arguments site).1 = (render name arguments site.renewed).1 := by
  have sameLibrary : site.renewed.library = site.library :=
    congrArg Composer.library sound.frozenComposer_renewed
  rw [render_eq, render_eq, sound.frozenComposer_renewed, sameLibrary]
  have blind : Blind site.library (site.library.getPage name Library.pageKind >>= fun page =>
      site.frozenComposer.renderPage page arguments) :=
    .bind (.of_settled (site.library.getPage_settled name _)) fun page =>
      site.frozenComposer.renderPage_blind page arguments
  exact (blind site.cache (sound.cache rfl)).1

theorem Sound.renderText_renewed {site : Site} (sound : site.Sound false) (text : String)
    (arguments : Entries) :
    (renderText text arguments site).1 = (renderText text arguments site.renewed).1 := by
  rw [renderText_eq, renderText_eq, sound.frozenComposer_renewed]
  exact (site.frozenComposer.renderText_blind text arguments site.cache (sound.cache rfl)).1

end Site

end Folio
