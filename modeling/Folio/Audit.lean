import Folio.Site
import Folio.Template.Survey

/-!
Contract: problems of a site that can be known without rendering it.

Owns: reading every page, the filters that a page names and the site does not know, and the inline
templates of a page that cannot be read. Templates inside inline templates are looked at as well, each text
once; they get shorter from one generation to the next, so the search ends.
-/

namespace Folio

open Folio.Template

structure Problem where
  page : String
  error : String
deriving DecidableEq, Repr

/-- The number of pages, and their problems in the order of the pages. -/
structure Report where
  pages : Nat
  problems : List Problem
deriving DecidableEq, Repr

/-- What has been found in a page so far: the texts that have been looked at, the unknown filters and the
errors of texts. -/
structure Findings where
  seen : List String
  unknown : List String
  errors : List String
deriving DecidableEq, Repr

namespace Findings

def none : Findings := ⟨[], [], []⟩

/-- Each unknown filter is noted once. -/
def noteFilter (registry : FilterRegistry) (findings : Findings) (name : String) : Findings :=
  if registry.contains name || findings.unknown.contains name then findings
  else { findings with unknown := findings.unknown ++ [name] }

/-- Reads a text that has not been looked at before; its nodes are left to be searched. -/
def noteText (findings : Findings) (text : String) : Except Fault (Findings × List (List Node)) :=
  if findings.seen.contains text then .ok (findings, [])
  else
    let findings := { findings with seen := text :: findings.seen }
    match parseTemplate text with
    | .ok nodes => .ok (findings, [nodes])
    | .error (.malformed error) =>
        let shown := repeatingFilter ++ " template: " ++ error.message
        .ok ({ findings with errors := findings.errors ++ [shown] }, [])
    | .error fault => .error fault

def noteTexts : List String → Findings → Except Fault (Findings × List (List Node))
  | [], findings => .ok (findings, [])
  | text :: texts, findings => do
      let (findings, first) ← findings.noteText text
      let (findings, rest) ← noteTexts texts findings
      return (findings, first ++ rest)

/-- Searches templates one after the other; gives the templates found inside them. -/
def noteTemplates (registry : FilterRegistry) :
    List (List Node) → Findings → Except Fault (Findings × List (List Node))
  | [], findings => .ok (findings, [])
  | nodes :: templates, findings => do
      let findings := (filterNames nodes).foldl (noteFilter registry) findings
      let (findings, first) ← noteTexts (inlineTemplates nodes repeatingFilter) findings
      let (findings, rest) ← noteTemplates registry templates findings
      return (findings, first ++ rest)

/-- Searches templates, then the templates inside them, for so many generations. -/
def noteGenerations (registry : FilterRegistry) :
    Nat → List (List Node) → Findings → Except Fault Findings
  | 0, _, findings => .ok findings
  | limit + 1, templates, findings => do
      if templates.isEmpty then return findings
      else
        let (findings, next) ← noteTemplates registry templates findings
        noteGenerations registry limit next findings

/-- The problems in words. -/
def problems (findings : Findings) : List String :=
  findings.unknown.map (fun name => "Unknown filter '" ++ name ++ "'") ++ findings.errors

end Findings

/-- More generations than there can be templates inside each other: each is shorter than the one around
it. -/
def generationLimit (nodes : List Node) : Nat :=
  (inlineTemplates nodes repeatingFilter).foldl (fun limit text => max limit (text.length + 2)) 2

/-- The problems of a template, in words. -/
def templateProblems (registry : FilterRegistry) (nodes : List Node) : Except Fault (List String) := do
  let findings ← Findings.noteGenerations registry (generationLimit nodes) [nodes] .none
  return findings.problems

/-- The problems of a page. Only errors of templates are problems; any other fault ends the audit. -/
def pageProblems (id : String) : Work Site (List Problem) := fun site =>
  match Site.getPage id Library.pageKind site with
  | (.ok page, after) =>
      ((templateProblems site.registry page.nodes).map fun errors => errors.map (⟨id, ·⟩), after)
  | (.error fault, after) =>
      if fault.isTemplateFault then (.ok [⟨id, fault.message⟩], after) else (.error fault, after)

def problemsOf : List String → Work Site (List Problem)
  | [] => pure []
  | id :: ids => do
      let first ← pageProblems id
      let rest ← problemsOf ids
      return first ++ rest

/-- Reads all pages of a site and reports their problems. -/
def audit : Work Site Report := do
  let ids ← Site.pageIds
  let problems ← problemsOf ids
  return ⟨ids.length, problems⟩

end Folio
