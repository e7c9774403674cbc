import Folio.Render.Compose

/-!
Contract: a site, which is pages with the settings and filters that they are rendered with.

Owns: making a site, reading and rendering its pages and other texts, changing its files, and its filters,
which can be registered until the first render freezes them.
-/

namespace Folio

open Folio.Template

structure Site where
  settings : Settings
  library : Library
  registry : FilterRegistry
  cache : Cache
  isPrepared : Bool

namespace Site

def new (settings : Settings) (source : Source) (registry : FilterRegistry) : Site :=
  ⟨settings, ⟨source, settings.pageExtension⟩, registry, .empty, false⟩

/-- The site in a folder of a tree, with the settings that lie there or in an explicit file. -/
def ofFolder (tree : FileTree) (root : Location) (folder : List String) (config : Option Location) :
    Except Fault Site := do
  let settings ← Settings.find tree root config
  return new settings (.folder tree folder) .standardWithMarkdown

def composer (site : Site) : Composer :=
  ⟨site.settings, site.library, site.registry⟩

/-- Work that needs the pages which have been read and nothing else that changes. -/
def withCache {α : Type} (work : Site → Work Cache α) : Work Site α := fun site =>
  let (result, cache) := work site site.cache
  (result, { site with cache := cache })

/-- Freezes the filters; says whether that had been done before. -/
def prepare : Work Site Bool := fun site =>
  (.ok site.isPrepared, { site with registry := site.registry.freeze, isPrepared := true })

/-! ## Pages -/

def findPage (name : String) : Work Site (Option Page) :=
  withCache fun site => site.library.findPage name

def getPage (name : String) (kind : String) : Work Site Page :=
  withCache fun site => site.library.getPage name kind

def findLayout (page : Page) : Work Site (Option Page) :=
  withCache fun site => site.library.findLayout page site.settings.layoutName

def inlineNodes (text : String) : Work Site (List Node) :=
  withCache fun _ => Folio.inlineNodes text

def pageIds : Work Site (List String) := fun site =>
  (site.library.pageIds.mapError .mishap, site)

def forget (name : Option String) : Work Site Unit :=
  withCache fun site => site.library.forget name

/-! ## Renders -/

/-- The text of a page that has been read before. -/
def renderPage (page : Page) (arguments : Entries) : Work Site String := do
  let _ ← prepare
  withCache fun site => site.composer.renderPage page arguments

def render (name : String) (arguments : Entries) : Work Site String := do
  let page ← getPage name Library.pageKind
  renderPage page arguments

def renderText (text : String) (arguments : Entries) : Work Site String := do
  let _ ← prepare
  withCache fun site => site.composer.renderText text arguments

/-- Renders a text as a page of its own, without keeping it. -/
def renderOnce (text : String) (arguments : Entries) : Work Site (Page × String) := do
  let page ← Work.ofExcept (Page.ofText text)
  let rendered ← renderPage page arguments
  return (page, rendered)

/-! ## Files and filters -/

def writeFile (path text : String) : Work Site Unit := fun site =>
  match site.library.source.write path text with
  | .ok source => (.ok (), { site with library := { site.library with source := source } })
  | .error cause => (.error (.mishap cause), site)

/-- Says whether the file was there. -/
def deleteFile (path : String) : Work Site Bool := fun site =>
  match site.library.source.delete path with
  | .ok (wasThere, source) =>
      (.ok wasThere, { site with library := { site.library with source := source } })
  | .error cause => (.error (.mishap cause), site)

def fileText (path : String) : Work Site (Option String) := fun site =>
  ((site.library.source.get? path).mapError .mishap, site)

def register (name : String) (offer : FilterOffer) : Work Site FilterSpec := fun site =>
  match site.registry.register name offer with
  | .ok (spec, registry) => (.ok spec, { site with registry := registry })
  | .error cause => (.error (.mishap cause), site)

end Site

end Folio
