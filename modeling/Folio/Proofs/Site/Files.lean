import Folio.Proofs.Site.Keeping
import Folio.Proofs.Text.Order

/-!
Contract: files in memory under the paths that they are listed by.

Owns: which files a history leaves and the text that any path reads behind it; and that a listed path reads its own
file if no blank stands at its ends.

Does not own: pages made of files.
-/

namespace Folio

open Folio.Text

theorem Source.mem_list_memory {files : List (String × String)} {path : String} :
    path ∈ (Source.memory files).list ↔ (files.lookup path).isSome = true := by
  rw [Source.list, mem_sortTexts, List.lookup_isSome_iff, List.mem_map]
  simp only [beq_iff_eq, @eq_comm String path]

theorem Source.get?_memory (files : List (String × String)) (path : String) :
    (Source.memory files).get? path = (Path.normalize path).map fun place => files.lookup place := by
  unfold Source.get?
  cases Path.normalize path <;> rfl

/-- A history leaves the texts that were written last. -/
theorem Site.hasTexts_run {site : Site} {files : List (String × String)}
    (source : site.library.source = .memory files) (acts : List PageAct) :
    (site.run (acts.map PageAct.move)).HasTexts (textBehind files acts) := by
  -- The last act decides, so the history grows at its end.
  induction acts using List.reverseRecOn with
  | nil => exact ⟨files, source, fun _ => rfl⟩
  | append_singleton acts act inductionHypothesis =>
      have grown : site.run ((acts ++ [act]).map PageAct.move) =
          act.move.after (site.run (acts.map PageAct.move)) := by
        simp [Site.run]
      rw [grown, funext (textBehind_concat files acts act)]
      exact (act.hasTexts_after inductionHypothesis).1

/-- What has a text behind a history without files was written under a path of which it is the canonical form. -/
theorem written_of_textBehind {acts : List PageAct} {path text : String}
    (isText : textBehind [] acts path = some text) :
    ∃ written, .write written text ∈ acts ∧ Path.normalize written = .ok path := by
  have said : acts.reverse.findSome? (PageAct.saysAt path) = some (some text) := by
    simpa [textBehind, Option.getD_eq_iff] using isText
  obtain ⟨act, member, isSaid⟩ := List.exists_of_findSome?_eq_some said
  rw [List.mem_reverse] at member
  cases act with
  | write written content =>
      simp only [PageAct.saysAt, toOption_eq_some] at isSaid
      split at isSaid
      · rename_i normal
        cases isSaid
        exact ⟨written, member, normal⟩
      · cases isSaid
  | delete other => simp [PageAct.saysAt] at isSaid
  | find | get | forget => cases isSaid

/-- When files are read back. A path that is accepted has a canonical form, and this is its own canonical form
exactly if no blank stands at its ends; it never has one there if the segments of the path are written without
blanks at theirs. Take files in memory, none at first, and any acts, such as writing and deleting them. Behind the
acts those paths are listed that have a text by then, and a path reads the text that was written last under its
canonical form. So a listed path, which is the canonical form of one that was written, reads the text last written
under it if no blank stands at its ends; otherwise it is refused, or reads what another path stands for. -/
theorem listed_files_are_read_back (settings : Settings) (registry : FilterRegistry) (acts : List PageAct) :
    let source := ((Site.new settings .emptyMemory registry).run (acts.map PageAct.move)).library.source
    (∀ path place, Path.normalize path = .ok place →
        (Path.normalize place = .ok place ↔ strip place.toList = place.toList) ∧
          ((∀ segment ∈ Path.segmentsOf path, strip segment = segment) → Path.normalize place = .ok place)) ∧
      (∀ path, path ∈ source.list ↔ (textBehind [] acts path).isSome = true) ∧
      (∀ path, source.get? path = (Path.normalize path).map (textBehind [] acts)) ∧
      ∀ path ∈ source.list, ∃ written text,
        .write written text ∈ acts ∧ Path.normalize written = .ok path ∧ textBehind [] acts path = some text ∧
          (strip path.toList = path.toList → source.get? path = .ok (some text)) ∧
          (strip path.toList ≠ path.toList → Path.normalize path ≠ .ok path) := by
  intro source
  obtain ⟨files, isSource, areTexts⟩ :=
    Site.hasTexts_run (show (Site.new settings .emptyMemory registry).library.source = .memory [] from rfl) acts
  have again : ∀ path place, Path.normalize path = .ok place →
      (Path.normalize place = .ok place ↔ strip place.toList = place.toList) :=
    fun path place normal => Path.normalize_again_iff normal
  have listed : ∀ path, path ∈ source.list ↔ (textBehind [] acts path).isSome = true := by
    intro path
    rw [show source = .memory files from isSource, Source.mem_list_memory, areTexts]
  have reads : ∀ path, source.get? path = (Path.normalize path).map (textBehind [] acts) := by
    intro path
    rw [show source = .memory files from isSource, ← funext areTexts, Source.get?_memory]
  refine ⟨?_, listed, reads, ?_⟩
  · intro path place normal
    exact ⟨again path place normal, Path.normalize_again_of_strip normal⟩
  · intro path member
    obtain ⟨text, isText⟩ := Option.isSome_iff_exists.1 ((listed path).1 member)
    obtain ⟨written, act, normal⟩ := written_of_textBehind isText
    refine ⟨written, text, act, normal, isText, ?_, ?_⟩
    · intro stripped
      rw [reads, (again written path normal).2 stripped, ← isText]
      rfl
    · intro blank canonical
      exact blank ((again written path normal).1 canonical)

/-- The law for a file that was written twice under two of its paths, one that was deleted, and one whose listed
path starts with a blank. -/
theorem listed_files_are_read_back_after_changes :
    let acts : List PageAct :=
      [.write "docs\\a.html" "1", .write " b " "2", .write "docs/./x/../a.html" "3", .delete "/b",
        .write "/ c" "4"]
    let source := ((Site.new .default .emptyMemory .standard).run (acts.map PageAct.move)).library.source
    source.list = [" c", "docs/a.html"] ∧ source.get? "docs/a.html" = .ok (some "3") ∧
      source.get? "b" = .ok none ∧ Path.normalize " c" ≠ .ok " c" ∧
      Path.normalize "docs\\a.html" = .ok "docs/a.html" ∧
      Path.normalize "docs/a.html" = .ok "docs/a.html" := by
  intro acts source
  obtain ⟨again, -, reads, listed⟩ := listed_files_are_read_back .default .standard acts
  have list : source.list = [" c", "docs/a.html"] := by decide +kernel
  have normal : Path.normalize "docs\\a.html" = .ok "docs/a.html" := by decide +kernel
  obtain ⟨-, text, -, -, isText, plain, -⟩ := listed "docs/a.html" (by rw [list]; simp)
  obtain ⟨-, -, -, -, -, -, blank⟩ := listed " c" (by rw [list]; simp)
  have isThree : textBehind [] acts "docs/a.html" = some "3" := by decide +kernel
  refine ⟨list, ?_, ?_, blank (by decide), normal, ?_⟩
  · rw [plain (by decide), ← isText, isThree]
  · rw [reads, show Path.normalize "b" = .ok "b" by decide +kernel]
    decide +kernel
  · apply (again "docs\\a.html" "docs/a.html" normal).2
    decide +kernel

/-- A canonical form is not always its own canonical form: a blank behind a slash in front stays at first. A file
that is written under such a path is listed under one that reads nothing. -/
theorem listed_file_is_not_read_back :
    let acts : List PageAct := [.write "/ a" "text"]
    let source := ((Site.new .default .emptyMemory .standard).run (acts.map PageAct.move)).library.source
    Path.normalize "/ a" = .ok " a" ∧ Path.normalize " a" = .ok "a" ∧ source.list = [" a"] ∧
      source.get? " a" = .ok none := by
  decide +kernel

end Folio
