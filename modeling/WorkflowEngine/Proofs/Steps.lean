import Mathlib.Data.List.Perm.Basic
import WorkflowEngine.Proofs.WellFormed
import WorkflowEngine.Schedule

/-!
# The steps of a workflow

Sorting neither adds nor drops a step, and the steps of a valid workflow can be
told apart by their identifiers.
-/

namespace WorkflowEngine

theorem insertByOrder_perm (step : Step) (steps : List Step) :
    (insertByOrder step steps).Perm (step :: steps) := by
  induction steps with
  | nil => exact .refl _
  | cons other rest inductionHypothesis =>
    unfold insertByOrder
    split
    · exact .refl _
    · exact (inductionHypothesis.cons other).trans (.swap step other rest)

theorem sortByOrder_perm (steps : List Step) : (sortByOrder steps).Perm steps := by
  have inserted (sorted : List Step) :
      (steps.foldl (fun sorted step => insertByOrder step sorted) sorted).Perm
        (steps ++ sorted) := by
    induction steps generalizing sorted with
    | nil => exact .refl _
    | cons step rest inductionHypothesis =>
      refine (inductionHypothesis (insertByOrder step sorted)).trans ?_
      exact ((insertByOrder_perm step sorted).append_left rest).trans List.perm_middle
  have sorted := inserted []
  rwa [List.append_nil] at sorted

/-- Of steps that can be told apart by their identifiers, each is found by its own. -/
theorem find?_id_eq_some
    {steps : List Step}
    {step : Step}
    (nodup : (steps.map Step.id).Nodup)
    (member : step ∈ steps) :
    steps.find? (fun other => other.id == step.id) = some step := by
  induction steps with
  | nil => cases member
  | cons other rest inductionHypothesis =>
    rw [List.map_cons, List.nodup_cons] at nodup
    rcases List.mem_cons.mp member with rfl | member
    · simp
    · have different : (other.id == step.id) = false := by
        rw [beq_eq_false_iff_ne]
        intro same
        exact nodup.1 (same ▸ List.mem_map_of_mem member)
      rw [List.find?_cons, different]
      exact inductionHypothesis nodup.2 member

namespace Workflow

variable {workflow : Workflow}

theorem orderedSteps_perm (workflow : Workflow) : workflow.orderedSteps.Perm workflow.steps :=
  sortByOrder_perm workflow.steps

@[simp] theorem length_orderedSteps (workflow : Workflow) :
    workflow.orderedSteps.length = workflow.steps.length :=
  workflow.orderedSteps_perm.length_eq

/-- No two steps of a valid workflow share an identifier. -/
theorem nodup_ids_of_isValid (valid : workflow.isValid = true) :
    (workflow.steps.map Step.id).Nodup :=
  (isValid_iff_isWellFormed.mp valid).distinct

/-- A step of a valid workflow is found by its identifier. -/
theorem step?_eq_some_of_mem
    (valid : workflow.isValid = true)
    {step : Step}
    (member : step ∈ workflow.steps) :
    workflow.step? step.id = some step :=
  find?_id_eq_some (nodup_ids_of_isValid valid) member

end Workflow

namespace Schedule

/-- The step under the cursor is a step of the schedule. -/
theorem mem_steps_of_current?
    {schedule : Schedule}
    {step : Step}
    (current : schedule.current? = some step) :
    step ∈ schedule.steps :=
  List.mem_of_getElem? current

end Schedule
end WorkflowEngine
