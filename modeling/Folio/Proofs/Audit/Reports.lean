import Folio.Proofs.Audit.Listing
import Folio.Proofs.Site.Places

/-!
Contract: audits as reports on the files of a site.

Owns: that the problems found in the pages of a site depend on their files alone, one page after the other; that
each problem is told under its own page; and that the search for problems fails only for numerals of templates.

Does not own: which pages have problems.
-/

namespace Folio

open Folio.Text Folio.Template

/-! ## Searches that fail -/

/-- A text cannot be read as a template, for a numeral that stands for no number. -/
def FailsForNumeral (text : String) (cause : Mishap) : Prop :=
  (∃ numeral, cause = .numeral numeral) ∧ parseTemplate text = .error (.mishap cause)

/-- Some template that is collected leads to one that cannot be read for a numeral. -/
def LeadsToNumeral (nodes : List Node) (cause : Mishap) : Prop :=
  ∃ inner text, Collects nodes inner ∧ text ∈ inlineTemplates inner repeatingFilter ∧
    FailsForNumeral text cause

namespace Findings

theorem noteText_eq_error {findings : Findings} {text : String} {fault : Fault}
    (failed : findings.noteText text = .error fault) :
    ∃ cause, fault = .mishap cause ∧ FailsForNumeral text cause := by
  unfold noteText at failed
  split at failed
  · cases failed
  · dsimp only at failed
    split at failed
    · cases failed
    · cases failed
    · rename_i refused notMalformed read
      cases failed
      rcases isFaultAt_of_parseTemplate read with ⟨error, rfl, -⟩ | ⟨numeral, rfl⟩
      · exact absurd rfl (notMalformed error)
      · exact ⟨_, rfl, ⟨numeral, rfl⟩, read⟩

theorem noteTexts_eq_error {texts : List String} {findings : Findings} {fault : Fault}
    (failed : noteTexts texts findings = .error fault) :
    ∃ text ∈ texts, ∃ cause, fault = .mishap cause ∧ FailsForNumeral text cause := by
  induction texts generalizing findings with
  | nil => cases failed
  | cons text texts inductionHypothesis =>
      rcases bind_eq_error.1 failed with unread | ⟨first, -, failed⟩
      · exact ⟨text, List.mem_cons_self, noteText_eq_error unread⟩
      · rcases bind_eq_error.1 failed with failed | ⟨rest, -, made⟩
        · obtain ⟨other, member, fails⟩ := inductionHypothesis failed
          exact ⟨other, List.mem_cons_of_mem text member, fails⟩
        · cases made

theorem noteTemplates_eq_error {registry : FilterRegistry} {templates : List (List Node)} {findings : Findings}
    {fault : Fault} (failed : noteTemplates registry templates findings = .error fault) :
    ∃ nodes ∈ templates, ∃ text ∈ inlineTemplates nodes repeatingFilter, ∃ cause, fault = .mishap cause ∧
      FailsForNumeral text cause := by
  induction templates generalizing findings with
  | nil => cases failed
  | cons nodes templates inductionHypothesis =>
      rcases bind_eq_error.1 failed with unread | ⟨first, -, failed⟩
      · exact ⟨nodes, List.mem_cons_self, noteTexts_eq_error unread⟩
      · rcases bind_eq_error.1 failed with failed | ⟨rest, -, made⟩
        · obtain ⟨other, member, fails⟩ := inductionHypothesis failed
          exact ⟨other, List.mem_cons_of_mem nodes member, fails⟩
        · cases made

/-- All generations of a search are collected from the template that it starts with. -/
theorem noteGenerations_eq_error {registry : FilterRegistry} {limit : Nat} {root : List Node}
    {templates : List (List Node)} {findings : Findings} {fault : Fault}
    (collected : ∀ nodes ∈ templates, Collects root nodes)
    (failed : noteGenerations registry limit templates findings = .error fault) :
    ∃ cause, fault = .mishap cause ∧ LeadsToNumeral root cause := by
  induction limit generalizing templates findings with
  | zero => cases failed
  | succ limit inductionHypothesis =>
      unfold noteGenerations at failed
      split at failed
      · cases failed
      · rcases bind_eq_error.1 failed with unread | ⟨⟨after, next⟩, noted, failed⟩
        · obtain ⟨nodes, member, text, isInside, cause, rfl, fails⟩ := noteTemplates_eq_error unread
          exact ⟨cause, rfl, nodes, text, collected nodes member, isInside, fails⟩
        · refine inductionHypothesis ?_ failed
          intro inner member
          obtain ⟨nodes, isNodes, text, isInside, read⟩ := read_of_noteTemplates noted inner member
          exact .inside (collected nodes isNodes) isInside read

end Findings

/-- The search for the problems of a template fails only for a numeral of a template inside. -/
theorem templateProblems_eq_error {registry : FilterRegistry} {nodes : List Node} {fault : Fault}
    (failed : templateProblems registry nodes = .error fault) :
    ∃ cause, fault = .mishap cause ∧ LeadsToNumeral nodes cause := by
  rcases bind_eq_error.1 failed with unsearched | ⟨findings, -, made⟩
  · refine Findings.noteGenerations_eq_error ?_ unsearched
    intro root member
    rw [List.mem_singleton.1 member]
    exact .self
  · cases made

/-! ## Reports -/

/-- Each problem of a page is told under that page. -/
theorem page_of_problemsFound {registry : FilterRegistry} {id : String} {outcome : Except Fault Page}
    {problems : List Problem} (found : problemsFound registry id outcome = .ok problems) :
    ∀ problem ∈ problems, problem.page = id := by
  intro problem member
  unfold problemsFound at found
  split at found
  · obtain ⟨errors, -, rfl⟩ := map_eq_ok.1 found
    obtain ⟨error, -, rfl⟩ := List.mem_map.1 member
    rfl
  · split at found
    · cases found
      rw [List.mem_singleton.1 member]
    · cases found

/-- Where the cache is not stale, the problems of a page are those of its file, and the files and filters stay
as they are. -/
theorem pageProblems_settled {site : Site} (faithful : site.cache.Faithful site.library) (id : String) :
    ∃ after, pageProblems id site =
        (problemsFound site.registry id (site.library.readKind id Library.pageKind), after) ∧
      after.library = site.library ∧ after.registry = site.registry ∧ after.cache.Faithful site.library := by
  have isFound := pageProblems_result id site
  rw [(site.library.getPage_settled id Library.pageKind site.cache faithful).1] at isFound
  obtain ⟨same, stillFaithful⟩ := Site.Keeps.pageProblems id site faithful
  refine ⟨(pageProblems id site).2, Prod.ext isFound rfl, same.library, ?_, stillFaithful⟩
  rw [pageProblems_apply]

/-- Where the cache is not stale, the problems of pages are those of their files, one page after the other. -/
theorem problemsOf_result {site : Site} (faithful : site.cache.Faithful site.library) (ids : List String) :
    (problemsOf ids site).1 =
      (ids.mapM fun id =>
        problemsFound site.registry id (site.library.readKind id Library.pageKind)).map List.flatten := by
  induction ids generalizing site with
  | nil => rfl
  | cons id ids inductionHypothesis =>
      obtain ⟨after, isFirst, sameLibrary, sameRegistry, stillFaithful⟩ := pageProblems_settled faithful id
      have afterFaithful : after.cache.Faithful after.library := sameLibrary.symm ▸ stillFaithful
      have others := inductionHypothesis afterFaithful
      rw [sameLibrary, sameRegistry] at others
      change (Work.andThen (pageProblems id) _ site).1 = _
      rw [List.mapM_cons]
      unfold Work.andThen
      rw [isFirst]
      cases problemsFound site.registry id (site.library.readKind id Library.pageKind) with
      | error fault => rfl
      | ok first =>
          change (Work.andThen (problemsOf ids) _ after).1 = _
          unfold Work.andThen
          rcases isRest : problemsOf ids after with ⟨outcome, last⟩
          rw [isRest] at others
          obtain rfl : outcome = _ := others
          cases ids.mapM fun id =>
              problemsFound site.registry id (site.library.readKind id Library.pageKind) with
          | error fault => rfl
          | ok rows => rfl

/-- Where the cache is not stale, an audit depends on the listed files alone. -/
theorem audit_result {site : Site} {ids : List String} (listed : site.library.pageIds = .ok ids)
    (faithful : site.cache.Faithful site.library) :
    (audit site).1 = (ids.mapM fun id =>
        problemsFound site.registry id (site.library.readKind id Library.pageKind)).map
          fun rows => ⟨ids.length, rows.flatten⟩ := by
  have isRow := problemsOf_result faithful ids
  change (Work.andThen Site.pageIds _ site).1 = _
  unfold Work.andThen Site.pageIds
  rw [listed]
  change (Work.andThen (problemsOf ids) _ site).1 = _
  unfold Work.andThen
  rcases found : problemsOf ids site with ⟨outcome, after⟩
  rw [found] at isRow
  obtain rfl : outcome = _ := isRow
  cases ids.mapM fun id =>
      problemsFound site.registry id (site.library.readKind id Library.pageKind) with
  | error fault => rfl
  | ok rows => rfl

/-- The problems told under a page, where looking at that page always finds the same ones. -/
theorem problems_under_page {registry : FilterRegistry} {read : String → Except Fault Page} {ids : List String}
    {rows : List (List Problem)}
    (found : List.Forall₂ (fun id row => problemsFound registry id (read id) = .ok row) ids rows) {id : String}
    {problem : Problem} (single : problemsFound registry id (read id) = .ok [problem]) :
    rows.flatten.filter (·.page = id) = List.replicate (ids.count id) problem := by
  have isPage : problem.page = id := page_of_problemsFound single problem List.mem_cons_self
  induction found with
  | nil => rfl
  | @cons other row ids rows isRow found inductionHypothesis =>
      rw [List.flatten_cons, List.filter_append, inductionHypothesis, List.count_cons]
      by_cases same : other = id
      · subst same
        cases single.symm.trans isRow
        simp [isPage, List.replicate_succ]
      · have none : row.filter (·.page = id) = [] := by
          rw [List.filter_eq_nil_iff]
          intro problem' member
          have isOther := page_of_problemsFound isRow problem' member
          simpa [isOther] using same
        rw [none]
        simp [same]

end Folio
