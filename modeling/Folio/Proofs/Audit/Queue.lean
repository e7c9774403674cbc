import Folio.Proofs.Audit.Search
import Mathlib.Computability.StateTransition

/-!
Contract: the search for problems, with the templates that are left waiting in a queue.

Owns: that no inline template is collected twice; a search that takes one template after the other from a queue
and looks at its inline templates one by one, without any limit; that this search ends, with the problems that
the search by generations finds; and that it reads no text twice, and only texts that are shorter than the one
it starts with.

Does not own: what is a problem.

The templates that wait are one generation in front of the next. So the queue gets through a generation when the
search by generations does, and the texts of each generation are shorter than those of the one before.
-/

namespace Folio

open Folio.Template StateTransition

/-! ## Texts that are collected once -/

/-- What is left of a row without its repetitions repeats nothing. -/
theorem nodup_eraseDups {α : Type} [BEq α] [LawfulBEq α] (items : List α) : items.eraseDups.Nodup := by
  cases items with
  | nil => exact List.nodup_nil
  | cons first items =>
      rw [List.eraseDups_cons, List.nodup_cons]
      refine ⟨?_, nodup_eraseDups (items.filter fun item => !item == first)⟩
      intro member
      have kept := (List.mem_filter.1 (List.mem_eraseDups.1 member)).2
      rw [BEq.rfl] at kept
      cases kept
termination_by items.length
decreasing_by exact Nat.lt_succ_of_le (List.length_filter_le _ items)

/-! ## Searches -/

/-- A search under way has templates that wait, the inline templates of the one in hand that are still to be
looked at, and what has been found; or a fault has ended it. The texts that it has read are kept, the latest
first. -/
inductive Search where
  | going (waiting : List (List Node)) (texts : List String) (findings : Findings) (read : List String)
  | failed (fault : Fault) (read : List String)

namespace Search

def start (nodes : List Node) : Search :=
  .going [nodes] [] .none []

/-- Goes on behind a reading. The templates inside are put behind those that wait. -/
def resume (waiting : List (List Node)) (texts read : List String) :
    Except Fault (Findings × List (List Node)) → Search
  | .ok (findings, inside) => .going (waiting ++ inside) texts findings read
  | .error fault => .failed fault read

/-- Looks at the next text of the template in hand, which is read unless it has been seen; behind the last one
the next template is taken. -/
def step (registry : FilterRegistry) : Search → Option Search
  | .going waiting (text :: texts) findings read =>
      if findings.seen.contains text then some (.going waiting texts findings read)
      else some (resume waiting texts (text :: read) (findings.noteText text))
  | .going (nodes :: waiting) [] findings read =>
      let noted := (filterNames nodes).foldl (Findings.noteFilter registry) findings
      some (.going waiting (inlineTemplates nodes repeatingFilter) noted read)
  | .going [] [] _ _ => none
  | .failed _ _ => none

def read : Search → List String
  | .going _ _ _ read => read
  | .failed _ read => read

/-- The problems in words, or the fault. -/
def outcome : Search → Except Fault (List String)
  | .going _ _ findings _ => .ok findings.problems
  | .failed fault _ => .error fault

variable {registry : FilterRegistry} {waiting : List (List Node)} {findings : Findings}

/-! ## Ends -/

/-- What is found inside waits already when the search goes on. -/
theorem resume_bind (waiting inside : List (List Node)) (texts read : List String)
    (found : Except Fault (Findings × List (List Node))) :
    resume waiting texts read (found >>= fun (findings, rest) => pure (findings, inside ++ rest)) =
      resume (waiting ++ inside) texts read found := by
  rcases found with fault | ⟨findings, rest⟩
  · rfl
  · exact congrArg (going · texts findings read) (List.append_assoc waiting inside rest).symm

/-- Looking at one text. -/
theorem text_reaches (registry : FilterRegistry) (waiting : List (List Node)) (text : String)
    (texts : List String) (findings : Findings) (read : List String) :
    ∃ read', Reaches (step registry) (.going waiting (text :: texts) findings read)
      (resume waiting texts read' (findings.noteText text)) := by
  by_cases seen : findings.seen.contains text = true
  · refine ⟨read, .single ?_⟩
    rw [Findings.noteText, if_pos seen, step, if_pos seen, resume, List.append_nil]
    rfl
  · refine ⟨text :: read, .single ?_⟩
    rw [step, if_neg seen]
    rfl

/-- Looking at all texts of a template. -/
theorem texts_reach (registry : FilterRegistry) (waiting : List (List Node)) (texts : List String)
    (findings : Findings) (read : List String) :
    ∃ read', Reaches (step registry) (.going waiting texts findings read)
      (resume waiting [] read' (Findings.noteTexts texts findings)) := by
  induction texts generalizing waiting findings read with
  | nil =>
      refine ⟨read, ?_⟩
      rw [Findings.noteTexts, resume, List.append_nil]
      exact .refl
  | cons text texts inductionHypothesis =>
      obtain ⟨between, first⟩ := text_reaches registry waiting text texts findings read
      rw [Findings.noteTexts]
      cases noted : findings.noteText text with
      | error fault =>
          rw [noted] at first
          exact ⟨between, first⟩
      | ok found =>
          obtain ⟨after, inside⟩ := found
          rw [noted] at first
          obtain ⟨read', others⟩ := inductionHypothesis (waiting ++ inside) after between
          rw [← resume_bind] at others
          exact ⟨read', first.trans others⟩

/-- Taking templates from the front of the queue, with all their texts. -/
theorem templates_reach (registry : FilterRegistry) (waiting templates : List (List Node))
    (findings : Findings) (read : List String) :
    ∃ read', Reaches (step registry) (.going (templates ++ waiting) [] findings read)
      (resume waiting [] read' (Findings.noteTemplates registry templates findings)) := by
  induction templates generalizing waiting findings read with
  | nil =>
      refine ⟨read, ?_⟩
      rw [Findings.noteTemplates, resume, List.append_nil]
      exact .refl
  | cons nodes templates inductionHypothesis =>
      let noted := (filterNames nodes).foldl (Findings.noteFilter registry) findings
      have taken : Reaches (step registry) (.going (nodes :: templates ++ waiting) [] findings read)
          (.going (templates ++ waiting) (inlineTemplates nodes repeatingFilter) noted read) :=
        .single rfl
      obtain ⟨between, first⟩ := texts_reach registry (templates ++ waiting)
        (inlineTemplates nodes repeatingFilter) noted read
      rw [Findings.noteTemplates]
      cases looked : Findings.noteTexts (inlineTemplates nodes repeatingFilter) noted with
      | error fault =>
          rw [looked] at first
          exact ⟨between, taken.trans first⟩
      | ok found =>
          obtain ⟨after, inside⟩ := found
          rw [looked, resume, List.append_assoc] at first
          obtain ⟨read', others⟩ := inductionHypothesis (waiting ++ inside) after between
          rw [← resume_bind] at others
          exact ⟨read', (taken.trans first).trans others⟩

/-- The queue gets empty, or the search fails, just as the search by generations does. -/
theorem generations_reach (registry : FilterRegistry) {limit : Nat} {templates : List (List Node)}
    (fits : Findings.Fits limit templates) (findings : Findings) (read : List String) :
    ∃ read', Reaches (step registry) (.going templates [] findings read)
      (resume [] [] read' ((Findings.noteGenerations registry limit templates findings).map (·, []))) := by
  induction limit generalizing templates findings read with
  | zero =>
      rw [fits.eq_nil]
      exact ⟨read, .refl⟩
  | succ limit inductionHypothesis =>
      rw [Findings.noteGenerations]
      by_cases empty : templates.isEmpty
      · rw [if_pos empty, List.isEmpty_iff.1 empty]
        exact ⟨read, .refl⟩
      · rw [if_neg empty]
        obtain ⟨between, first⟩ := templates_reach registry [] templates findings read
        rw [List.append_nil] at first
        cases noted : Findings.noteTemplates registry templates findings with
        | error fault =>
            rw [noted] at first
            exact ⟨between, first⟩
        | ok found =>
            obtain ⟨after, next⟩ := found
            rw [noted] at first
            obtain ⟨read', others⟩ := inductionHypothesis (fits.next noted) after between
            exact ⟨read', first.trans others⟩

/-- The search ends, with the problems of the template. -/
theorem exists_mem_eval (registry : FilterRegistry) (nodes : List Node) :
    ∃ last ∈ eval (step registry) (start nodes), last.outcome = templateProblems registry nodes := by
  obtain ⟨read', reaches⟩ := generations_reach registry (Findings.fits_generationLimit nodes) .none []
  refine ⟨_, mem_eval.2 ⟨reaches, ?_⟩, ?_⟩
  · cases Findings.noteGenerations registry (generationLimit nodes) [nodes] .none <;> rfl
  · unfold templateProblems
    cases Findings.noteGenerations registry (generationLimit nodes) [nodes] .none <;> rfl

/-! ## Readings -/

/-- The texts that have been read are those that have been seen, each once. -/
def ReadsOnce : Search → Prop
  | .going _ _ findings read => read = findings.seen ∧ read.Nodup
  | .failed _ read => read.Nodup

/-- The texts that have been read, and those that are still to be read, are shorter than a limit. -/
def ReadsBelow (limit : Nat) : Search → Prop
  | .going waiting texts _ read =>
      (∀ nodes ∈ waiting, ∀ text ∈ inlineTemplates nodes repeatingFilter, text.length < limit) ∧
        (∀ text ∈ texts, text.length < limit) ∧ ∀ text ∈ read, text.length < limit
  | .failed _ read => ∀ text ∈ read, text.length < limit

theorem seen_noteFilters (registry : FilterRegistry) (names : List String) (findings : Findings) :
    (names.foldl (Findings.noteFilter registry) findings).seen = findings.seen := by
  induction names generalizing findings with
  | nil => rfl
  | cons name names inductionHypothesis =>
      rw [List.foldl_cons, inductionHypothesis, Findings.noteFilter]
      split
      · rfl
      · rfl

theorem seen_noteText {after : Findings} {text : String} {inside : List (List Node)}
    (isNew : ¬findings.seen.contains text = true) (noted : findings.noteText text = .ok (after, inside)) :
    after.seen = text :: findings.seen := by
  unfold Findings.noteText at noted
  rw [if_neg isNew] at noted
  dsimp only at noted
  split at noted
  · cases noted
    rfl
  · cases noted
    rfl
  · cases noted

/-- The cases of a step: a text is passed over, a new text is read, or a template is taken. -/
inductive Steps (registry : FilterRegistry) : Search → Search → Prop where
  | passes (waiting : List (List Node)) (text : String) (texts : List String) (findings : Findings)
      (read : List String) :
      Steps registry (.going waiting (text :: texts) findings read) (.going waiting texts findings read)
  | reads (waiting : List (List Node)) (text : String) (texts : List String) (findings : Findings)
      (read : List String) (isNew : ¬findings.seen.contains text = true) :
      Steps registry (.going waiting (text :: texts) findings read)
        (resume waiting texts (text :: read) (findings.noteText text))
  | takes (nodes : List Node) (waiting : List (List Node)) (findings : Findings) (read : List String) :
      Steps registry (.going (nodes :: waiting) [] findings read)
        (.going waiting (inlineTemplates nodes repeatingFilter)
          ((filterNames nodes).foldl (Findings.noteFilter registry) findings) read)

theorem steps_of_step {search next : Search} (stepped : step registry search = some next) :
    Steps registry search next := by
  cases search with
  | failed fault read => cases stepped
  | going waiting texts findings read =>
      cases texts with
      | cons text texts =>
          rw [step] at stepped
          split at stepped
          · cases stepped
            exact .passes ..
          · rename_i isNew
            cases stepped
            exact .reads _ _ _ _ _ isNew
      | nil =>
          cases waiting with
          | nil => cases stepped
          | cons nodes waiting =>
              cases stepped
              exact .takes ..

theorem Steps.readsOnce {search next : Search} (steps : Steps registry search next)
    (once : search.ReadsOnce) : next.ReadsOnce := by
  cases steps with
  | passes waiting text texts findings read => exact once
  | takes nodes waiting findings read =>
      refine ⟨?_, once.2⟩
      rw [seen_noteFilters]
      exact once.1
  | reads waiting text texts findings read isNew =>
      obtain ⟨rfl, nodup⟩ := once
      have stillNodup : (text :: findings.seen).Nodup :=
        List.nodup_cons.2 ⟨fun member => isNew (List.contains_iff_mem.2 member), nodup⟩
      cases noted : findings.noteText text with
      | error fault => exact stillNodup
      | ok found => exact ⟨(seen_noteText isNew noted).symm, stillNodup⟩

theorem Steps.readsBelow {limit : Nat} {search next : Search} (steps : Steps registry search next)
    (below : search.ReadsBelow limit) : next.ReadsBelow limit := by
  cases steps with
  | passes waiting text texts findings read =>
      obtain ⟨waitingBelow, textsBelow, readBelow⟩ := below
      exact ⟨waitingBelow, (List.forall_mem_cons.1 textsBelow).2, readBelow⟩
  | takes nodes waiting findings read =>
      obtain ⟨waitingBelow, -, readBelow⟩ := below
      obtain ⟨nodesBelow, waitingBelow⟩ := List.forall_mem_cons.1 waitingBelow
      exact ⟨waitingBelow, nodesBelow, readBelow⟩
  | reads waiting text texts findings read isNew =>
      obtain ⟨waitingBelow, textsBelow, readBelow⟩ := below
      obtain ⟨textBelow, textsBelow⟩ := List.forall_mem_cons.1 textsBelow
      have nowBelow : ∀ other ∈ text :: read, other.length < limit :=
        List.forall_mem_cons.2 ⟨textBelow, readBelow⟩
      cases noted : findings.noteText text with
      | error fault => exact nowBelow
      | ok found =>
          refine ⟨List.forall_mem_append.2 ⟨waitingBelow, ?_⟩, textsBelow, nowBelow⟩
          intro nodes member inner isInside
          have shorter := length_of_inlineTemplates (Findings.read_of_noteText noted nodes member) isInside
          exact Nat.lt_trans shorter textBelow

/-- What every step keeps holds at the end, if it holds at the start. -/
theorem holds_at_end {holds : Search → Prop}
    (kept : ∀ search next, Steps registry search next → holds search → holds next) {first last : Search}
    (ends : last ∈ eval (step registry) first) (atStart : holds first) : holds last := by
  obtain ⟨reaches, -⟩ := mem_eval.1 ends
  clear ends
  induction reaches with
  | refl => exact atStart
  | tail _ stepped inductionHypothesis => exact kept _ _ (steps_of_step stepped) inductionHypothesis

end Search

/-! ## The law -/

/-- The inline templates of a template that can be read are shorter than it, whatever filter they are handed to,
and none is collected twice. The search for the problems of a template ends, whatever nodes it starts with: it
empties its queue, or fails, with the problems that are told. It reads no text twice, and for a template that can
be read only texts that are shorter. -/
theorem inlineTemplates_shrink :
    (∀ text nodes filter, parseTemplate text = .ok nodes →
        (∀ inner ∈ inlineTemplates nodes filter, inner.length < text.length) ∧
          (inlineTemplates nodes filter).Nodup) ∧
      ∀ registry nodes, ∃ last ∈ eval (Search.step registry) (.start nodes),
        last.outcome = templateProblems registry nodes ∧ last.read.Nodup ∧
          ∀ text, parseTemplate text = .ok nodes → ∀ inner ∈ last.read, inner.length < text.length := by
  constructor
  · intro text nodes filter read
    exact ⟨fun inner member => length_of_inlineTemplates read member, nodup_eraseDups _⟩
  · intro registry nodes
    obtain ⟨last, ends, isOutcome⟩ := Search.exists_mem_eval registry nodes
    refine ⟨last, ends, isOutcome, ?_, ?_⟩
    · have once : last.ReadsOnce :=
        Search.holds_at_end (fun _ _ steps => steps.readsOnce) ends ⟨rfl, List.nodup_nil⟩
      cases last with
      | going waiting texts findings read => exact once.2
      | failed fault read => exact once
    · intro text isRead
      have atStart : (Search.start nodes).ReadsBelow text.length := by
        refine ⟨?_, nofun, nofun⟩
        intro outer member inner isInside
        obtain rfl := List.mem_singleton.1 member
        exact length_of_inlineTemplates isRead isInside
      have below := Search.holds_at_end (fun _ _ steps => steps.readsBelow) ends atStart
      cases last with
      | going waiting texts findings read => exact below.2.2
      | failed fault read => exact below

/-- The law at a template that hands the same text over twice, with another template inside it: the text is
collected once. -/
theorem inlineTemplates_shrink_at_repetition :
    let text := "\x7b\x7b '-\x7b\x7b \"a\" | forEach(y) \x7d\x7d' | forEach(x) \x7d\x7d" ++
      "\x7b\x7b '-\x7b\x7b \"a\" | forEach(y) \x7d\x7d' | forEach(z) \x7d\x7d"
    let inner := "-\x7b\x7b \"a\" | forEach(y) \x7d\x7d"
    ∃ nodes, parseTemplate text = .ok nodes ∧ inlineTemplates nodes repeatingFilter = [inner] ∧
      inner.length < text.length ∧
      ∃ last ∈ eval (Search.step .standard) (.start nodes),
        last.outcome = .ok [] ∧ last.read.Nodup ∧ ∀ inner ∈ last.read, inner.length < text.length := by
  intro text inner
  have collected : (parseTemplate text).map (inlineTemplates · repeatingFilter) = .ok [inner] := by
    decide +kernel
  have searched : (parseTemplate text >>= templateProblems .standard) = .ok [] := by decide +kernel
  obtain ⟨nodes, read, isInner⟩ := map_eq_ok.1 collected
  obtain ⟨_, readToo, noProblem⟩ := bind_eq_ok.1 searched
  cases read.symm.trans readToo
  obtain ⟨shrinks, ends⟩ := inlineTemplates_shrink
  have isInside : inner ∈ inlineTemplates nodes repeatingFilter := by
    rw [isInner]
    exact List.mem_singleton_self inner
  obtain ⟨last, isLast, isOutcome, once, shorter⟩ := ends .standard nodes
  exact ⟨nodes, read, isInner, (shrinks text nodes repeatingFilter read).1 inner isInside, last, isLast,
    isOutcome.trans noProblem, once, shorter text read⟩

end Folio
