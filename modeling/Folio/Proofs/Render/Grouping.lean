import Folio.Proofs.Render.Shorthand
import Folio.Proofs.Template.Grouping
import Folio.Proofs.Work

/-!
Contract: the first stages of a pipeline in parentheses.

Owns: that the value of stages behind other stages is found in two steps, that a pipeline has the same value inside
another expression as by itself, and that parentheses around the front of a pipeline change nothing.

Does not own: which texts are read.
-/

namespace Folio

open Folio.Template

section Stages

variable (call : FilterCall)

/-- More stages run on the value of those in front of them. -/
theorem runStages_append (front back : List Stage) (value : Value) :
    runStages call (front ++ back) value = runStages call front value >>= runStages call back := by
  induction front generalizing value with
  | nil => rfl
  | cons stage front inductionHypothesis =>
      obtain ⟨name, arguments, line, column⟩ := stage
      rw [List.cons_append, runStages, runStages, Work.bind_assoc]
      congr 1
      funext values
      rw [Work.bind_assoc]
      congr 1
      funext next
      exact inductionHypothesis next

theorem evaluate_toExpr (pipeline : Pipeline) : evaluate call pipeline.toExpr = evaluatePipeline call pipeline := by
  obtain ⟨root, stages⟩ := pipeline
  cases stages with
  | nil => exact (Work.bind_pure (evaluate call root)).symm
  | cons stage stages => rfl

/-- A pipeline whose root is another one has the value of the two in a row. -/
theorem evaluatePipeline_grouped (pipeline : Pipeline) (stages : List Stage) :
    evaluatePipeline call ⟨pipeline.toExpr, stages⟩ =
      evaluatePipeline call ⟨pipeline.root, pipeline.stages ++ stages⟩ := by
  rw [evaluatePipeline, evaluatePipeline, evaluate_toExpr, evaluatePipeline, Work.bind_assoc]
  congr 1
  funext value
  exact (runStages_append call pipeline.stages stages value).symm

end Stages

/-- Parentheses around the front of a pipeline change nothing. A text that is read is read in parentheses too, with the
same value; and where it is read with more stages behind it, it is read in parentheses with these stages, and both
have the same value in every scope, or fail there with the same fault, whatever the filters do. -/
theorem grouping_keeps_value {text : String} {pipeline : Pipeline} (read : parseExpressionText text = .ok pipeline) :
    (∃ grouped, parseExpressionText ("(" ++ text ++ ")") = .ok grouped ∧
      ∀ call, evaluatePipeline call grouped = evaluatePipeline call pipeline) ∧
    ∀ filters whole, parseExpressionText (text ++ " | " ++ filters) = .ok whole →
      ∃ grouped, parseExpressionText ("(" ++ text ++ ") | " ++ filters) = .ok grouped ∧
        ∀ call, evaluatePipeline call grouped = evaluatePipeline call whole := by
  constructor
  · have nothing : words (some .rightParen) .start "".toList = .ok ([] ++ [⟨.finish, "", .start⟩]) := by
      rw [String.toList_empty, words]
      rfl
    obtain ⟨grouped, groupedRead, same⟩ := parseExpressionText_grouped read nothing .noStages
    rw [String.append_empty] at groupedRead
    refine ⟨grouped, groupedRead, fun call => ?_⟩
    rw [← evaluatePipeline_unplaced, same, evaluatePipeline_unplaced, evaluatePipeline_grouped, List.append_nil]
  · intro filters whole readWhole
    obtain ⟨place, row, finish, stages, found, spelled, rfl⟩ := stages_of_parseExpressionText read readWhole
    obtain ⟨grouped, groupedRead, same⟩ := parseExpressionText_grouped read found spelled
    have sameText : "(" ++ text ++ ")" ++ (" | " ++ filters) = "(" ++ text ++ ") | " ++ filters := by
      have joined : ") | " = ")" ++ " | " := rfl
      rw [joined]
      simp only [String.append_assoc]
    rw [sameText] at groupedRead
    refine ⟨grouped, groupedRead, fun call => ?_⟩
    rw [← evaluatePipeline_unplaced, same, evaluatePipeline_unplaced, evaluatePipeline_grouped]

/-- The law for an expression that ends in a stage of its own, in front of two more stages. -/
theorem grouping_keeps_value_at_stages :
    ∃ pipeline whole grouped, parseExpressionText "rows.0 | join(', ')" = .ok pipeline ∧
      parseExpressionText "rows.0 | join(', ') | upper | f(.5, x)" = .ok whole ∧
        parseExpressionText "(rows.0 | join(', ')) | upper | f(.5, x)" = .ok grouped ∧
          ∀ call, evaluatePipeline call grouped = evaluatePipeline call whole := by
  obtain ⟨pipeline, read⟩ := exists_of_isOk
    (show (parseExpressionText "rows.0 | join(', ')").isOk = true by decide +kernel)
  obtain ⟨whole, readWhole⟩ := exists_of_isOk
    (show (parseExpressionText ("rows.0 | join(', ')" ++ " | " ++ "upper | f(.5, x)")).isOk = true by decide +kernel)
  obtain ⟨grouped, groupedRead, same⟩ := (grouping_keeps_value read).2 "upper | f(.5, x)" whole readWhole
  exact ⟨pipeline, whole, grouped, read, readWhole, groupedRead, same⟩

end Folio
