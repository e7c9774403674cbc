import Folio.Audit
import Folio.Proofs.Outcome
import Folio.Proofs.Template.InlineText

/-!
Contract: the search for problems misses no template.

Owns: templates that are collected from a template; that so many generations as the search is given are enough,
since texts get shorter; what one generation of the search finds; and that a search without problems has read
every collected template and knows all filters in it.

Does not own: renders.
-/

namespace Folio

open Folio.Template

/-- The templates that a template leads to: itself, and what is read from the inline templates in those. -/
inductive Collects (nodes : List Node) : List Node → Prop where
  | self : Collects nodes nodes
  | inside {inner deeper : List Node} {text : String} :
      Collects nodes inner → text ∈ inlineTemplates inner repeatingFilter →
      parseTemplate text = .ok deeper → Collects nodes deeper

namespace Findings

def IsClean (findings : Findings) : Prop :=
  findings.unknown = [] ∧ findings.errors = []

/-! ## Templates inside -/

/-- What is left to be searched was read from the text. -/
theorem read_of_noteText {findings after : Findings} {text : String} {next : List (List Node)}
    (noted : findings.noteText text = .ok (after, next)) : ∀ nodes ∈ next, parseTemplate text = .ok nodes := by
  intro nodes member
  unfold noteText at noted
  split at noted
  · cases noted
    cases member
  · dsimp only at noted
    split at noted
    · rename_i read
      cases noted
      rwa [List.mem_singleton.1 member]
    · cases noted
      cases member
    · cases noted

theorem read_of_noteTexts {texts : List String} {findings after : Findings} {next : List (List Node)}
    (noted : noteTexts texts findings = .ok (after, next)) :
    ∀ nodes ∈ next, ∃ text ∈ texts, parseTemplate text = .ok nodes := by
  induction texts generalizing findings after next with
  | nil =>
      cases noted
      exact nofun
  | cons text texts inductionHypothesis =>
      obtain ⟨⟨between, first⟩, firstNoted, noted⟩ := bind_eq_ok.1 noted
      obtain ⟨⟨last, rest⟩, restNoted, noted⟩ := bind_eq_ok.1 noted
      cases noted
      intro nodes member
      rcases List.mem_append.1 member with member | member
      · exact ⟨text, List.mem_cons_self, read_of_noteText firstNoted nodes member⟩
      · obtain ⟨other, isOther, read⟩ := inductionHypothesis restNoted nodes member
        exact ⟨other, List.mem_cons_of_mem text isOther, read⟩

theorem read_of_noteTemplates {registry : FilterRegistry} {templates next : List (List Node)}
    {findings after : Findings} (noted : noteTemplates registry templates findings = .ok (after, next)) :
    ∀ inner ∈ next, ∃ nodes ∈ templates, ∃ text ∈ inlineTemplates nodes repeatingFilter,
      parseTemplate text = .ok inner := by
  induction templates generalizing findings after next with
  | nil =>
      cases noted
      exact nofun
  | cons nodes templates inductionHypothesis =>
      obtain ⟨⟨between, first⟩, firstNoted, noted⟩ := bind_eq_ok.1 noted
      obtain ⟨⟨last, rest⟩, restNoted, noted⟩ := bind_eq_ok.1 noted
      cases noted
      intro inner member
      rcases List.mem_append.1 member with member | member
      · exact ⟨nodes, List.mem_cons_self, read_of_noteTexts firstNoted inner member⟩
      · obtain ⟨other, isOther, read⟩ := inductionHypothesis restNoted inner member
        exact ⟨other, List.mem_cons_of_mem nodes isOther, read⟩

/-! ## Generations -/

/-- So many generations are enough for templates: each one has only shorter texts than the one before. -/
structure Fits (limit : Nat) (templates : List (List Node)) : Prop where
  positive : templates ≠ [] → 0 < limit
  short : ∀ nodes ∈ templates, ∀ text ∈ inlineTemplates nodes repeatingFilter, text.length + 2 ≤ limit

/-- One generation less is enough for the templates inside. -/
theorem Fits.next {registry : FilterRegistry} {limit : Nat} {templates next : List (List Node)}
    {findings after : Findings} (fits : Fits (limit + 1) templates)
    (noted : noteTemplates registry templates findings = .ok (after, next)) : Fits limit next := by
  have bound : ∀ inner ∈ next, ∃ text : String,
      text.length + 2 ≤ limit + 1 ∧ parseTemplate text = .ok inner := by
    intro inner member
    obtain ⟨nodes, isNodes, text, isInside, read⟩ := read_of_noteTemplates noted inner member
    exact ⟨text, fits.short nodes isNodes text isInside, read⟩
  constructor
  · intro nonempty
    obtain ⟨inner, others, rfl⟩ := List.exists_cons_of_ne_nil nonempty
    obtain ⟨text, textShort, -⟩ := bound inner List.mem_cons_self
    omega
  · intro inner member deeper isDeeper
    obtain ⟨text, textShort, read⟩ := bound inner member
    have shorter := length_of_inlineTemplates read isDeeper
    omega

/-- Without any generation left there is no template. -/
theorem Fits.eq_nil {templates : List (List Node)} (fits : Fits 0 templates) : templates = [] := by
  by_contra nonempty
  exact Nat.lt_irrefl 0 (fits.positive nonempty)

theorem le_foldl_max (texts : List String) (start : Nat) :
    start ≤ texts.foldl (fun limit text => max limit (text.length + 2)) start ∧
      ∀ text ∈ texts,
        text.length + 2 ≤ texts.foldl (fun limit text => max limit (text.length + 2)) start := by
  induction texts generalizing start with
  | nil => exact ⟨Nat.le_refl start, nofun⟩
  | cons first texts inductionHypothesis =>
      obtain ⟨grows, bounds⟩ := inductionHypothesis (max start (first.length + 2))
      rw [List.foldl_cons]
      refine ⟨Nat.le_trans (Nat.le_max_left _ _) grows, List.forall_mem_cons.2 ⟨?_, bounds⟩⟩
      exact Nat.le_trans (Nat.le_max_right _ _) grows

theorem fits_generationLimit (nodes : List Node) : Fits (generationLimit nodes) [nodes] := by
  obtain ⟨positive, bounds⟩ := le_foldl_max (inlineTemplates nodes repeatingFilter) 2
  constructor
  · intro _
    exact Nat.lt_of_lt_of_le (by decide) positive
  · intro outer member text textMember
    obtain rfl := List.mem_singleton.1 member
    exact bounds text textMember

/-! ## Filters -/

theorem noteFilter_clean {registry : FilterRegistry} {findings : Findings} {name : String}
    (clean : (noteFilter registry findings name).IsClean) :
    findings.IsClean ∧ registry.contains name = true ∧ noteFilter registry findings name = findings := by
  unfold noteFilter at clean ⊢
  by_cases known : registry.contains name || findings.unknown.contains name
  · rw [if_pos known] at clean
    rw [if_pos known]
    rw [clean.1, List.contains_nil, Bool.or_false] at known
    exact ⟨clean, known, rfl⟩
  · rw [if_neg known] at clean
    exact absurd clean.1 (by simp)

theorem noteFilters_clean {registry : FilterRegistry} {names : List String} {findings : Findings}
    (clean : (names.foldl (noteFilter registry) findings).IsClean) :
    findings.IsClean ∧ (∀ name ∈ names, registry.contains name = true) ∧
      names.foldl (noteFilter registry) findings = findings := by
  induction names generalizing findings with
  | nil => exact ⟨clean, nofun, rfl⟩
  | cons name names inductionHypothesis =>
      obtain ⟨cleanAfter, known, same⟩ := inductionHypothesis clean
      obtain ⟨cleanBefore, nameKnown, unchanged⟩ := noteFilter_clean cleanAfter
      refine ⟨cleanBefore, List.forall_mem_cons.2 ⟨nameKnown, known⟩, ?_⟩
      rw [List.foldl_cons, same, unchanged]

/-! ## Texts -/

/-- What looking at some texts without finding a problem does: each has been looked at before, or it can be
read and its nodes are left to be searched. -/
structure Finds (before after : Findings) (texts : List String) (next : List (List Node)) :
    Prop where
  clean : before.IsClean
  seen : before.seen ⊆ after.seen
  looked : texts ⊆ after.seen
  opened : ∀ text ∈ after.seen,
    text ∈ before.seen ∨ ∃ nodes ∈ next, parseTemplate text = .ok nodes

theorem Finds.none {findings : Findings} (clean : findings.IsClean) : Finds findings findings [] [] where
  clean := clean
  seen := List.Subset.refl _
  looked := List.nil_subset _
  opened _ member := .inl member

theorem Finds.append {before between after : Findings} {texts texts' : List String}
    {next next' : List (List Node)} (first : Finds before between texts next)
    (second : Finds between after texts' next') :
    Finds before after (texts ++ texts') (next ++ next') where
  clean := first.clean
  seen := List.Subset.trans first.seen second.seen
  looked := List.append_subset.2 ⟨List.Subset.trans first.looked second.seen, second.looked⟩
  opened text member := by
    rcases second.opened text member with member | ⟨nodes, nodesMember, read⟩
    · rcases first.opened text member with member | ⟨nodes, nodesMember, read⟩
      · exact .inl member
      · exact .inr ⟨nodes, List.mem_append_left _ nodesMember, read⟩
    · exact .inr ⟨nodes, List.mem_append_right _ nodesMember, read⟩

theorem noteText_finds {findings after : Findings} {text : String} {next : List (List Node)}
    (noted : findings.noteText text = .ok (after, next)) (clean : after.IsClean) :
    Finds findings after [text] next := by
  unfold noteText at noted
  by_cases known : findings.seen.contains text
  · rw [if_pos known] at noted
    cases noted
    refine ⟨clean, List.Subset.refl _, ?_, fun _ member => .inl member⟩
    exact List.cons_subset.2 ⟨List.contains_iff_mem.1 known, List.nil_subset _⟩
  · rw [if_neg known] at noted
    dsimp only at noted
    split at noted
    · rename_i nodes read
      cases noted
      refine ⟨clean, List.subset_cons_self _ _, ?_, ?_⟩
      · exact List.cons_subset.2 ⟨List.mem_cons_self, List.nil_subset _⟩
      · intro other member
        rcases List.mem_cons.1 member with rfl | member
        · exact .inr ⟨nodes, List.mem_singleton_self nodes, read⟩
        · exact .inl member
    · cases noted
      exact absurd clean.2 (by simp)
    · cases noted

theorem noteTexts_finds {texts : List String} {findings after : Findings}
    {next : List (List Node)} (noted : noteTexts texts findings = .ok (after, next))
    (clean : after.IsClean) : Finds findings after texts next := by
  induction texts generalizing findings next with
  | nil =>
      cases noted
      exact .none clean
  | cons text texts inductionHypothesis =>
      obtain ⟨⟨between, first⟩, firstNoted, noted⟩ := bind_eq_ok.1 noted
      obtain ⟨⟨after', rest⟩, restNoted, noted⟩ := bind_eq_ok.1 noted
      cases noted
      have second := inductionHypothesis restNoted
      exact (noteText_finds firstNoted second.clean).append second

/-! ## Templates and generations -/

theorem noteTemplates_finds {registry : FilterRegistry} {templates : List (List Node)}
    {findings after : Findings} {next : List (List Node)}
    (noted : noteTemplates registry templates findings = .ok (after, next))
    (clean : after.IsClean) :
    Finds findings after (templates.flatMap (inlineTemplates · repeatingFilter)) next ∧
      ∀ nodes ∈ templates, ∀ name ∈ filterNames nodes, registry.contains name = true := by
  induction templates generalizing findings next with
  | nil =>
      cases noted
      exact ⟨.none clean, nofun⟩
  | cons nodes templates inductionHypothesis =>
      obtain ⟨⟨between, first⟩, firstNoted, noted⟩ := bind_eq_ok.1 noted
      obtain ⟨⟨after', rest⟩, restNoted, noted⟩ := bind_eq_ok.1 noted
      cases noted
      obtain ⟨second, othersKnown⟩ := inductionHypothesis restNoted
      have texts := noteTexts_finds firstNoted second.clean
      obtain ⟨_, known, same⟩ := noteFilters_clean texts.clean
      rw [same] at texts
      exact ⟨texts.append second, List.forall_mem_cons.2 ⟨known, othersKnown⟩⟩

end Findings

/-- The filters of a template are known, and its inline templates have been looked at. -/
def IsSearched (registry : FilterRegistry) (seen : List String) (nodes : List Node) : Prop :=
  (∀ name ∈ filterNames nodes, registry.contains name = true) ∧
    inlineTemplates nodes repeatingFilter ⊆ seen

namespace Findings

/-- A problem that is noted stays noted. -/
theorem noteGenerations_clean {registry : FilterRegistry} {limit : Nat}
    {templates : List (List Node)} {findings after : Findings}
    (noted : noteGenerations registry limit templates findings = .ok after)
    (clean : after.IsClean) : findings.IsClean := by
  induction limit generalizing templates findings with
  | zero =>
      cases noted
      exact clean
  | succ limit inductionHypothesis =>
      rw [noteGenerations] at noted
      by_cases empty : templates.isEmpty
      · rw [if_pos empty] at noted
        cases noted
        exact clean
      · rw [if_neg empty] at noted
        obtain ⟨⟨between, next⟩, firstNoted, noted⟩ := bind_eq_ok.1 noted
        exact (noteTemplates_finds firstNoted (inductionHypothesis noted)).1.clean

/-- What a search without problems has done when it ends: it has searched all templates that it was given,
and every text that it has looked at can be read and has been searched. -/
structure IsClosed (registry : FilterRegistry) (templates : List (List Node))
    (before after : Findings) : Prop where
  seen : before.seen ⊆ after.seen
  searched : ∀ nodes ∈ templates, IsSearched registry after.seen nodes
  closed : ∀ text ∈ after.seen, text ∈ before.seen ∨
    ∃ nodes, parseTemplate text = .ok nodes ∧ IsSearched registry after.seen nodes

theorem IsClosed.nothing (registry : FilterRegistry) (findings : Findings) :
    IsClosed registry [] findings findings where
  seen := List.Subset.refl _
  searched := nofun
  closed _ member := .inl member

/-- One generation, and a search of the next one. -/
theorem IsClosed.generation {registry : FilterRegistry} {templates next : List (List Node)}
    {before between after : Findings}
    (finds : Finds before between (templates.flatMap (inlineTemplates · repeatingFilter)) next)
    (known : ∀ nodes ∈ templates, ∀ name ∈ filterNames nodes, registry.contains name = true)
    (later : IsClosed registry next between after) :
    IsClosed registry templates before after where
  seen := List.Subset.trans finds.seen later.seen
  searched nodes member := by
    refine ⟨known nodes member, fun text textMember => ?_⟩
    exact later.seen (finds.looked (List.mem_flatMap.2 ⟨nodes, member, textMember⟩))
  closed text member := by
    rcases later.closed text member with member | isSearched
    · rcases finds.opened text member with member | ⟨nodes, nodesMember, read⟩
      · exact .inl member
      · exact .inr ⟨nodes, read, later.searched nodes nodesMember⟩
    · exact .inr isSearched

/-- The search is over before its generations are: the texts get shorter with each of them. -/
theorem noteGenerations_closed {registry : FilterRegistry} {limit : Nat}
    {templates : List (List Node)} {findings after : Findings}
    (noted : noteGenerations registry limit templates findings = .ok after)
    (clean : after.IsClean) (fits : Fits limit templates) :
    IsClosed registry templates findings after := by
  induction limit generalizing templates findings with
  | zero =>
      rw [fits.eq_nil]
      cases noted
      exact .nothing registry after
  | succ limit inductionHypothesis =>
      rw [noteGenerations] at noted
      by_cases empty : templates.isEmpty
      · rw [if_pos empty] at noted
        cases noted
        rw [List.isEmpty_iff.1 empty]
        exact .nothing registry after
      · rw [if_neg empty] at noted
        obtain ⟨⟨between, next⟩, firstNoted, noted⟩ := bind_eq_ok.1 noted
        obtain ⟨finds, known⟩ := noteTemplates_finds firstNoted (noteGenerations_clean noted clean)
        exact .generation finds known (inductionHypothesis noted (fits.next firstNoted))

end Findings

/-! ## Templates without problems -/

/-- A template without problems, and all that it leads to, name known filters only and hand over nothing
that cannot be read. -/
theorem collects_of_templateProblems {registry : FilterRegistry} {nodes : List Node}
    (noProblem : templateProblems registry nodes = .ok []) {inner : List Node}
    (collected : Collects nodes inner) :
    (∀ name ∈ filterNames inner, registry.contains name = true) ∧
      ∀ text ∈ inlineTemplates inner repeatingFilter, ∃ deeper, parseTemplate text = .ok deeper := by
  obtain ⟨after, noted, problems⟩ := bind_eq_ok.1 noProblem
  have clean : after.IsClean := by
    have none : after.problems = [] := Except.ok.inj problems
    rw [Findings.problems, List.append_eq_nil_iff, List.map_eq_nil_iff] at none
    exact none
  have closed : Findings.IsClosed registry [nodes] .none after :=
    Findings.noteGenerations_closed noted clean (Findings.fits_generationLimit nodes)
  have readable : ∀ text ∈ after.seen, ∃ deeper, parseTemplate text = .ok deeper ∧
      IsSearched registry after.seen deeper := by
    intro text member
    exact (closed.closed text member).resolve_left List.not_mem_nil
  have searched : IsSearched registry after.seen inner := by
    induction collected with
    | self => exact closed.searched nodes (List.mem_singleton_self nodes)
    | inside _ textMember read inductionHypothesis =>
        obtain ⟨deeper, read', isSearched⟩ := readable _ (inductionHypothesis.2 textMember)
        cases read.symm.trans read'
        exact isSearched
  refine ⟨searched.1, fun text member => ?_⟩
  obtain ⟨deeper, read, -⟩ := readable text (searched.2 member)
  exact ⟨deeper, read⟩

end Folio
