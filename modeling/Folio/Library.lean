import Folio.Page
import Folio.Source
import Folio.Work

/-!
Contract: finding pages in a source, and keeping what has been read.

Owns:
- the identity of a page: the canonical path of its file without the page extension;
- finding a page by any of its names, and the layout that belongs to a page;
- the cache of pages by identity and of inline templates by text.

A page stays as it was read first until it is given up. What could not be read and what was not found are
not kept. Finding a page changes the cache only.
-/

namespace Folio

open Folio.Text Folio.Template

/-- Where pages come from, and the extension of their files. -/
structure Library where
  source : Source
  extension : String
deriving Repr

/-- Pages under their identities, and the nodes of inline templates under their texts. -/
structure Cache where
  pages : List (String × Page)
  inlines : List (String × List Node)
deriving Repr

namespace Cache

def empty : Cache := ⟨[], []⟩

def page? (cache : Cache) (id : String) : Option Page :=
  cache.pages.lookup id

def inline? (cache : Cache) (text : String) : Option (List Node) :=
  cache.inlines.lookup text

def addPage (cache : Cache) (page : Page) : Cache :=
  { cache with pages := (page.id, page) :: cache.pages }

def addInline (cache : Cache) (text : String) (nodes : List Node) : Cache :=
  { cache with inlines := (text, nodes) :: cache.inlines }

def withoutPage (cache : Cache) (id : String) : Cache :=
  { cache with pages := cache.pages.filter fun entry => entry.1 != id }

/-- The identities of the pages, in ascending order. -/
def pageIds (cache : Cache) : List String :=
  sortTexts (cache.pages.map Prod.fst)

end Cache

/-- The nodes of an inline template, read once. -/
def inlineNodes (text : String) : Work Cache (List Node) := fun cache =>
  match cache.inline? text with
  | some nodes => (.ok nodes, cache)
  | none =>
      match parseTemplate text with
      | .ok nodes => (.ok nodes, cache.addInline text nodes)
      | .error fault => (.error fault, cache)

namespace Library

/-! ## Identities -/

/-- A path without an extension, unless nothing but the extension is there. -/
def dropExtension (extension path : String) : String :=
  if extension.toList.isSuffixOf path.toList && extension.length < path.length && extension != "" then
    String.ofList (path.toList.take (path.length - extension.length))
  else path

/-- The identity of the page that a name stands for. -/
def pageId (library : Library) (name : String) : Except Mishap String :=
  (Path.normalize name).map (dropExtension library.extension)

/-- The paths at which the file of a page may lie. -/
def candidatePaths (library : Library) (id : String) : List String :=
  if library.extension == "" then [id] else [id ++ library.extension, id]

/-! ## Pages -/

/-- The first of some paths that has a text, with the text. -/
def firstText (source : Source) : List String → Except Mishap (Option (String × String))
  | [] => .ok none
  | path :: paths => do
      match ← source.get? path with
      | some text => return some (path, text)
      | none => firstText source paths

/-- Reads a page from the source, if its file is there. -/
def readPage (library : Library) (id : String) : Except Fault (Option Page) := do
  match ← (firstText library.source (library.candidatePaths id)).mapError Fault.mishap with
  | some (path, text) => return some (← Page.parse id path text)
  | none => return none

/-- The page with an identity, from the cache or from the source. -/
def pageWithId (library : Library) (id : String) : Work Cache (Option Page) := fun cache =>
  match cache.page? id with
  | some page => (.ok (some page), cache)
  | none =>
      match library.readPage id with
      | .ok (some page) => (.ok (some page), cache.addPage page)
      | .ok none => (.ok none, cache)
      | .error fault => (.error fault, cache)

/-- The page that a name stands for; what cannot be a name stands for none. -/
def findPage (library : Library) (name : String) : Work Cache (Option Page) :=
  match library.pageId name with
  | .ok id => library.pageWithId id
  | .error _ => pure none

def pageKind : String := "page"

def partialKind : String := "partial"

def layoutKind : String := "layout"

/-- The page that a name stands for; `kind` says in messages what is missing. -/
def getPage (library : Library) (name kind : String) : Work Cache Page := do
  match ← library.findPage name with
  | some page => return page
  | none => throw (.notFound kind name)

/-! ## Layouts -/

/-- The first page that one of the names stands for. -/
def firstPage (library : Library) : List String → Work Cache (Option Page)
  | [] => pure none
  | name :: names => do
      match ← library.findPage name with
      | some page => return some page
      | none => firstPage library names

/-- The first page that one of the names stands for, other than the page itself. -/
def firstOtherPage (library : Library) (id : String) : List String → Work Cache (Option Page)
  | [] => pure none
  | name :: names => do
      match ← library.findPage name with
      | some page => if page.id != id then return some page else firstOtherPage library id names
      | none => firstOtherPage library id names

/-- A layout that is named is looked for in the folder of the page and then from the root. -/
def layoutNames (folder name : String) : List String :=
  if name.toList.head? = some '/' ∨ folder = "" then [name] else [Path.join folder name, name]

/-- The layout of a page: none if it asks for none, the one that it names, or the nearest one called
`layoutName` in its folder and the folders above. -/
def findLayout (library : Library) (page : Page) (layoutName : String) : Work Cache (Option Page) :=
  match page.layout with
  | some name =>
      if name == FrontMatter.noLayout then pure none
      else do
        match ← library.firstPage (layoutNames page.folder name) with
        | some layout => return some layout
        | none => throw (.notFound layoutKind name)
  | none =>
      library.firstOtherPage page.id
        ((Path.foldersUp page.id).map fun folder => Path.join folder layoutName)

/-! ## All pages -/

def isPagePath (library : Library) (path : String) : Bool :=
  library.extension.toList.isSuffixOf path.toList

/-- The identities of the pages in the source, in ascending order. -/
def pageIds (library : Library) : Except Mishap (List String) := do
  let ids ← (library.source.list.filter library.isPagePath).mapM library.pageId
  return sortTexts ids

/-- Gives up one page, or everything. -/
def forget (library : Library) : Option String → Work Cache Unit
  | none => Work.write .empty
  | some name => fun cache =>
      match library.pageId name with
      | .ok id => (.ok (), cache.withoutPage id)
      | .error cause => (.error (.mishap cause), cache)

end Library

end Folio
