import Mathlib.Data.List.Sort
import WorkflowEngine.Execution.Reaction
import WorkflowEngine.Proofs.Cursor

/-!
# The order of declaration

Where no two steps have one key, the steps of a workflow can be sorted in one way only, so that
nothing depends on the order in which they are declared: neither the schedule, nor what is done
with it, nor the reactions to failed steps.  The checks of a workflow do not depend on that
order in any case.
-/

namespace WorkflowEngine

/-- Sorted steps have keys that do not decrease. -/
theorem pairwise_sortByOrder (steps : List Step) :
    (sortByOrder steps).Pairwise fun step other => step.order ≤ other.order := by
  obtain ⟨places, arranges⟩ := exists_arranges steps
  have declared : (places.map (steps[·]?)).Pairwise fun here there =>
      ∀ step ∈ here, ∀ other ∈ there, step.order ≤ other.order := by
    rw [List.pairwise_map]
    refine arranges.increasing.imp ?_
    rintro here there ⟨first, second, atHere, atThere, precedes⟩ step isHere other isThere
    cases atHere.symm.trans isHere
    cases atThere.symm.trans isThere
    omega
  rw [← arranges.reads, List.pairwise_map] at declared
  exact declared.imp fun apart => apart _ rfl _ rfl

/-- Steps without a common key are sorted in one way. -/
theorem sortByOrder_eq_of_perm
    {steps others : List Step}
    (declared : steps.Perm others)
    (distinct : (steps.map Step.order).Nodup) :
    sortByOrder steps = sortByOrder others := by
  refine List.Perm.eq_of_pairwise ?_ (pairwise_sortByOrder steps) (pairwise_sortByOrder others)
    ((sortByOrder_perm steps).trans (declared.trans (sortByOrder_perm others).symm))
  -- Two steps of which neither is behind the other have one key, and are one step by `distinct`.
  intro step other member member' notBehind notBefore
  have here := (sortByOrder_perm steps).mem_iff.mp member
  have there := declared.mem_iff.mpr ((sortByOrder_perm others).mem_iff.mp member')
  exact List.inj_on_of_nodup_map distinct here there (Int.le_antisymm notBehind notBefore)

namespace Workflow

variable {first second : Workflow}

/-- Well-formed steps are so in any order. -/
theorem IsWellFormed.of_perm
    (wellFormed : first.IsWellFormed)
    (declared : first.steps.Perm second.steps)
    (named : Text.isBlankText second.id = false) :
    second.IsWellFormed where
  named := named
  nonempty := fun empty => wellFormed.nonempty (by simpa [empty] using declared)
  steps := fun step member => wellFormed.steps step (declared.mem_iff.mpr member)
  distinct := (declared.map Step.id).nodup_iff.mp wellFormed.distinct
  known := fun step member _ _ refers => by
    obtain ⟨target, there, same⟩ := wellFormed.known step (declared.mem_iff.mpr member) refers
    exact ⟨target, declared.mem_iff.mp there, same⟩
  reachable := fun step member _ _ refers route lister listed =>
    wellFormed.reachable step (declared.mem_iff.mpr member) refers route lister
      (declared.mem_iff.mpr listed)

/-- Two workflows with the same steps pass the checks together, if neither of them or both
lack an identifier. -/
theorem isValid_iff_of_perm
    (declared : first.steps.Perm second.steps)
    (alike : Text.isBlankText first.id = Text.isBlankText second.id) :
    first.isValid = true ↔ second.isValid = true := by
  rw [isValid_iff_isWellFormed, isValid_iff_isWellFormed]
  exact ⟨fun wellFormed => wellFormed.of_perm declared (alike ▸ wellFormed.named),
    fun wellFormed => wellFormed.of_perm declared.symm (alike ▸ wellFormed.named)⟩

/-- The schedule of a workflow is told by its sorted steps. -/
theorem ofWorkflow_eq_of_orderedSteps (same : first.orderedSteps = second.orderedSteps) :
    Schedule.ofWorkflow first = Schedule.ofWorkflow second := by
  unfold Schedule.ofWorkflow
  rw [same]

/-- Steps with different keys may be declared in any order.  The schedules have the same steps
in the same sequence, with the same positions and owners, and their cursors are at the same
place.  They stay the same whatever is done to them, every failed step is reacted to in the
same way, and the checks accept the workflows together if neither of them or both lack an
identifier. -/
theorem declared_in_any_order
    (declared : first.steps.Perm second.steps)
    (distinct : (first.steps.map Step.order).Nodup) :
    first.orderedSteps = second.orderedSteps ∧
    Schedule.ofWorkflow first = Schedule.ofWorkflow second ∧
    (∀ operations, Schedule.after first operations = Schedule.after second operations) ∧
    (∀ (step : Step) outcome default operations,
      step.reaction outcome default (Schedule.after first operations) =
        step.reaction outcome default (Schedule.after second operations)) ∧
    (Text.isBlankText first.id = Text.isBlankText second.id →
      (first.isValid = true ↔ second.isValid = true)) := by
  have sorted : first.orderedSteps = second.orderedSteps :=
    sortByOrder_eq_of_perm declared distinct
  have fresh := ofWorkflow_eq_of_orderedSteps sorted
  have moved (operations : List Schedule.Operation) :
      Schedule.after first operations = Schedule.after second operations := by
    unfold Schedule.after
    rw [fresh]
  exact ⟨sorted, fresh, moved, fun step outcome default operations => by rw [moved],
    isValid_iff_of_perm declared⟩

/-- A workflow with a parallel step, its sub-step, and a step that falls back to the former. -/
def parcels : Workflow where
  id := "parcels"
  steps :=
    [{ id := "fan", type := .parallel, order := 3
       config := .object [("stepIds", .array [.text "mail"])] },
     { id := "mail", type := .sendEmail, order := 4 },
     { id := "check", type := .delay, order := 1
       failure := { action := some .goto, fallbackStep := some "fan" } }]

/-- The same workflow, declared the other way round. -/
def parcelsReversed : Workflow := { parcels with steps := parcels.steps.reverse }

theorem declared_in_any_order_parcels :
    (parcels.steps.map Step.order).Nodup ∧
    Schedule.after parcels [.jumpTo 1] = Schedule.after parcelsReversed [.jumpTo 1] ∧
    (Schedule.after parcelsReversed [.jumpTo 1]).cursor = 1 ∧
    (Schedule.ofWorkflow parcelsReversed).isOwned "mail" = true ∧
    parcelsReversed.isValid = true := by
  have distinct : (parcels.steps.map Step.order).Nodup := by decide
  have declared : parcels.steps.Perm parcelsReversed.steps := (List.reverse_perm _).symm
  obtain ⟨-, fresh, moved, -, checked⟩ := declared_in_any_order declared distinct
  refine ⟨distinct, moved _, ?_, ?_, (checked rfl).mp (by rfl)⟩
  · rw [← moved]
    rfl
  · rw [← fresh]
    rfl

/-- Workflows with the same steps need not be accepted together, because a workflow has an
identifier of its own. -/
theorem accepted_but_for_identifier :
    parcels.steps.Perm parcels.steps.reverse ∧
    (parcels.steps.map Step.id).Nodup ∧
    (parcels.steps.map Step.order).Nodup ∧
    parcels.isValid = true ∧
    Workflow.isValid { parcelsReversed with id := "" } = false :=
  ⟨(List.reverse_perm _).symm, by decide, by decide, by rfl, by rfl⟩

end Workflow
end WorkflowEngine
