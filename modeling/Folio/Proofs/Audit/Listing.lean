import Folio.Proofs.Audit.Soundness
import Folio.Proofs.Render.Inclusion

/-!
Contract: pages of a site under the identities that are listed.

Owns: that each listed identity is the one of a page file, and each page file is listed under its identity; when
a listed identity leads back to its file, so that the page which is got and the problems which an audit finds are
those of the file; and that no page is ever got under an identity which stands for another one.

Does not own: files whose own path is not canonical.
-/

namespace Folio

open Folio.Text Folio.Template

namespace Library

variable {library : Library} {files : List (String × String)}

/-! ## Extensions -/

/-- An extension that was taken away can be put back, unless there was nothing else. -/
theorem dropExtension_append {extension path : String}
    (endsSo : extension.toList.isSuffixOf path.toList = true) (isMore : path ≠ extension) :
    dropExtension extension path ++ extension = path := by
  obtain ⟨front, isPath⟩ := List.isSuffixOf_iff_suffix.1 endsSo
  have size : path.length = front.length + extension.length := by
    rw [← String.length_toList, ← isPath, List.length_append, String.length_toList]
  unfold dropExtension
  by_cases none : extension = ""
  · subst none
    simp
  · have longer : extension.length < path.length := by
      rw [size]
      have nonempty : front ≠ [] := by
        rintro rfl
        exact isMore (String.toList_injective isPath.symm)
      have := List.length_pos_iff.2 nonempty
      omega
    have taken : path.toList.take (path.length - extension.length) = front := by
      rw [← isPath, size, Nat.add_sub_cancel]
      exact List.take_left' rfl
    rw [if_pos (by simp [endsSo, longer, none]), taken]
    apply String.toList_injective
    rw [String.toList_append, String.toList_ofList, isPath]

/-! ## Files under their identities -/

/-- The file of which a listed identity is made is the first one that is looked for under it. Only behind a name
that is nothing but the extension another file may stand in front. -/
def IsFirst (library : Library) (file : String) : Prop :=
  file = library.extension → library.source.get? (file ++ library.extension) = .ok none

theorem get?_of_canonical {file text : String} (source : library.source = .memory files)
    (canonical : Path.normalize file = .ok file) (isText : files.lookup file = some text) :
    library.source.get? file = .ok (some text) := by
  rw [source]
  exact bind_eq_ok.2 ⟨file, canonical, congrArg Except.ok isText⟩

theorem pageId_of_canonical {file : String} (canonical : Path.normalize file = .ok file) :
    library.pageId file = .ok (dropExtension library.extension file) := by
  unfold pageId
  rw [canonical]
  rfl

/-- What is read under a canonical identity is the first text that lies under it. -/
theorem readKind_of_firstText {id path text : String}
    (found : firstText library.source (library.candidatePaths id) = .ok (some (path, text)))
    (canonical : library.pageId id = .ok id) (kind : String) :
    library.readKind id kind = Page.parse id path text := by
  have read : library.readPage id = (Page.parse id path text).map some := by
    unfold readPage
    rw [found]
    rfl
  unfold readKind readNamed
  rw [canonical]
  dsimp only
  rw [read]
  cases Page.parse id path text with
  | ok page => rfl
  | error fault => rfl

section File

variable {file text id : String} (source : library.source = .memory files)
  (isText : files.lookup file = some text) (isPage : library.isPagePath file = true)
  (canonical : Path.normalize file = .ok file) (isId : library.pageId file = .ok id)
  (isFirst : library.IsFirst file)

include source isText isPage canonical isId isFirst

theorem firstText_of_file :
    firstText library.source (library.candidatePaths id) = .ok (some (file, text)) := by
  have isGot := get?_of_canonical source canonical isText
  have found : ∀ paths, firstText library.source (file :: paths) = .ok (some (file, text)) :=
    fun paths => bind_eq_ok.2 ⟨some text, isGot, rfl⟩
  cases (pageId_of_canonical canonical).symm.trans isId
  unfold candidatePaths
  by_cases bare : file = library.extension
  · -- Nothing is taken away from a name that is the extension alone, and its own path comes second.
    have kept : dropExtension library.extension file = file := by
      unfold dropExtension
      rw [if_neg (by simp [bare])]
    rw [kept]
    split
    · exact found []
    · exact bind_eq_ok.2 ⟨none, isFirst bare, found []⟩
  · rw [dropExtension_append isPage bare]
    split
    · rename_i noExtension
      have whole := dropExtension_append isPage bare
      rw [eq_of_beq noExtension] at whole ⊢
      rw [String.append_empty] at whole
      rw [whole]
      exact found []
    · exact found _

/-- What is read under a listed identity is its file. -/
theorem readKind_of_file (kind : String) (leadsBack : library.pageId id = .ok id) :
    library.readKind id kind = Page.parse id file text :=
  readKind_of_firstText (firstText_of_file source isText isPage canonical isId isFirst) leadsBack kind

end File

/-- A page has the identity of the name that it is got by. -/
theorem pageId_of_getPage {name kind : String} {cache : Cache} {page : Page}
    (faithful : cache.Faithful library) (isGot : (library.getPage name kind cache).1 = .ok page) :
    library.pageId name = .ok page.id := by
  have read := findPage_of_getPage isGot
  rw [(library.findPage_settled name cache faithful).1] at read
  unfold readNamed at read
  cases isId : library.pageId name with
  | error cause =>
      rw [isId] at read
      cases read
  | ok id =>
      rw [isId] at read
      rw [id_of_readPage read]

/-- Each listed identity is the one of a page file. -/
theorem file_of_id {ids : List String} (source : library.source = .memory files)
    (listed : library.pageIds = .ok ids) {id : String} (member : id ∈ ids) :
    ∃ file ∈ files, library.isPagePath file.1 = true ∧ library.pageId file.1 = .ok id := by
  obtain ⟨unsorted, mapped, listed⟩ := bind_eq_ok.1 listed
  cases listed
  obtain ⟨path, isListed, isId⟩ := exists_of_mem_mapM mapped (mem_sortTexts.1 member)
  rw [source] at isListed
  obtain ⟨isFile, isPage⟩ := List.mem_filter.1 isListed
  obtain ⟨file, fileMember, rfl⟩ := List.mem_map.1 (mem_sortTexts.1 isFile)
  exact ⟨file, fileMember, isPage, isId⟩

end Library

/-! ## Audits -/

/-- The problems of a page under an identity, as reading it came out. -/
def problemsFound (registry : FilterRegistry) (id : String) :
    Except Fault Page → Except Fault (List Problem)
  | .ok page => (templateProblems registry page.nodes).map fun errors => errors.map (⟨id, ·⟩)
  | .error fault => if fault.isTemplateFault then .ok [⟨id, fault.message⟩] else .error fault

theorem pageProblems_result (id : String) (site : Site) :
    (pageProblems id site).1 =
      problemsFound site.registry id (site.library.getPage id Library.pageKind site.cache).1 := by
  rw [pageProblems_apply]
  cases (site.library.getPage id Library.pageKind site.cache).1 with
  | ok page => rfl
  | error fault => rfl

/-- What the list of pages is good for. Take a site over files in memory, whose cache is not stale, and any
extension of pages. Each listed identity is the one of a page file, and each page file has its identity listed. A
page is only got under an identity of its own if that identity, read as a name, stands for itself. Where this is
so, and the file has a canonical path and comes first under its identity, what is got is that file, and an audit
finds the problems of that file. -/
theorem listed_page_is_file {site : Site} {files : List (String × String)} {ids : List String}
    (source : site.library.source = .memory files) (faithful : site.cache.Faithful site.library)
    (listed : site.library.pageIds = .ok ids) :
    (∀ id ∈ ids, ∃ file ∈ files,
        site.library.isPagePath file.1 = true ∧ site.library.pageId file.1 = .ok id) ∧
      (∀ file ∈ files, site.library.isPagePath file.1 = true →
        ∃ id ∈ ids, site.library.pageId file.1 = .ok id) ∧
      (∀ id kind page, (site.library.getPage id kind site.cache).1 = .ok page → page.id = id →
        site.library.pageId id = .ok id) ∧
      ∀ file text id, files.lookup file = some text → site.library.isPagePath file = true →
        Path.normalize file = .ok file → site.library.pageId file = .ok id →
          site.library.pageId id = .ok id → site.library.IsFirst file →
            (∀ kind, (site.library.getPage id kind site.cache).1 = Page.parse id file text) ∧
              (pageProblems id site).1 = problemsFound site.registry id (Page.parse id file text) := by
  refine ⟨?_, ?_, ?_, ?_⟩
  · intro id member
    exact Library.file_of_id source listed member
  · intro file member isPage
    exact Library.id_of_file source listed member isPage
  · intro id kind page isGot ownIdentity
    have isId := Library.pageId_of_getPage faithful isGot
    rwa [ownIdentity] at isId
  · intro file text id isText isPage canonical isId leadsBack isFirst
    have isGot : ∀ kind, (site.library.getPage id kind site.cache).1 = Page.parse id file text := by
      intro kind
      rw [(site.library.getPage_settled id kind site.cache faithful).1]
      exact Library.readKind_of_file source isText isPage canonical isId isFirst kind leadsBack
    exact ⟨isGot, by rw [pageProblems_result, isGot]⟩

/-- The law for a page in a folder that names an unknown filter, and for one that is malformed. -/
theorem listed_page_is_file_in_folder :
    let files := [("docs/a.html", "\x7b\x7b it | nope \x7d\x7d"), ("b.html", "\x7b\x7b")]
    let site := Site.new .default (.memory files) .standard
    site.library.source = .memory files ∧ site.cache.Faithful site.library ∧
      site.library.pageIds = .ok ["b", "docs/a"] ∧
      (∃ file ∈ files, site.library.isPagePath file.1 = true ∧ site.library.pageId file.1 = .ok "docs/a") ∧
      (∃ id ∈ ["b", "docs/a"], site.library.pageId "b.html" = .ok id) ∧
      (site.library.getPage "docs/a" Library.pageKind site.cache).1.map Page.id = .ok "docs/a" ∧
      site.library.pageId "docs/a" = .ok "docs/a" ∧ site.library.pageId "b" = .ok "b" ∧
      (pageProblems "docs/a" site).1 = .ok [⟨"docs/a", "Unknown filter 'nope'"⟩] ∧
      (site.library.getPage "b" Library.pageKind site.cache).1 = Page.parse "b" "b.html" "\x7b\x7b" ∧
      (pageProblems "b" site).1 = .ok [⟨"b", "Unclosed '\x7b\x7b' at b:1:1"⟩] := by
  intro files site
  have faithful : site.cache.Faithful site.library := .empty site.library
  have listed : site.library.pageIds = .ok ["b", "docs/a"] := by decide +kernel
  obtain ⟨fileOf, idOf, backOf, loads⟩ :=
    listed_page_is_file (show site.library.source = .memory files from rfl) faithful listed
  have fileOfListed := fileOf "docs/a" (List.mem_cons_of_mem _ List.mem_cons_self)
  have listedOfFile := idOf ("b.html", "\x7b\x7b") (List.mem_cons_of_mem _ List.mem_cons_self) (by decide +kernel)
  -- The page in the folder is got under its own identity, so that identity leads back to it.
  have gotId : (site.library.getPage "docs/a" Library.pageKind site.cache).1.map Page.id = .ok "docs/a" := by
    decide +kernel
  obtain ⟨page, isPage, ownIdentity⟩ := map_eq_ok.1 gotId
  have leadsBack := backOf "docs/a" Library.pageKind page isPage ownIdentity
  have leadsBack' : site.library.pageId "b" = .ok "b" := by decide +kernel
  obtain ⟨-, inFolder⟩ := loads "docs/a.html" _ "docs/a" rfl (by decide +kernel) (by decide +kernel)
    (by decide +kernel) leadsBack (fun bare => absurd bare (by decide))
  obtain ⟨isGot, atTop⟩ := loads "b.html" _ "b" rfl (by decide +kernel) (by decide +kernel)
    (by decide +kernel) leadsBack' (fun bare => absurd bare (by decide))
  have unknown : problemsFound site.registry "docs/a"
      (Page.parse "docs/a" "docs/a.html" "\x7b\x7b it | nope \x7d\x7d") =
        .ok [⟨"docs/a", "Unknown filter 'nope'"⟩] := by decide +kernel
  have unclosed : problemsFound site.registry "b" (Page.parse "b" "b.html" "\x7b\x7b") =
      .ok [⟨"b", "Unclosed '\x7b\x7b' at b:1:1"⟩] := by decide +kernel
  exact ⟨rfl, faithful, listed, fileOfListed, listedOfFile, gotId, leadsBack, leadsBack', inFolder.trans unknown,
    isGot _, atTop.trans unclosed⟩

/-- The list of a site does not always name pages that can be got. Behind a name that ends with the extension twice
stands the identity of another page, so that page is got instead, and a malformed file passes the audit. -/
theorem listed_page_is_other :
    let files := [("q.html", "fine"), ("q.html.html", "\x7b\x7b oops")]
    let site := Site.new .default (.memory files) .standard
    site.library.pageIds = .ok ["q", "q.html"] ∧ site.library.pageId "q.html.html" = .ok "q.html" ∧
      (site.library.getPage "q.html" Library.pageKind site.cache).1.map (fun page => (page.id, page.path)) =
        .ok ("q", "q.html") ∧
      (audit site).1 = .ok ⟨2, []⟩ ∧
      (Page.parse "q.html" "q.html.html" "\x7b\x7b oops").map (fun page => page.id) =
        .error (.malformed ⟨.unclosedExpression, .start, some "q.html"⟩) := by
  decide +kernel

end Folio
