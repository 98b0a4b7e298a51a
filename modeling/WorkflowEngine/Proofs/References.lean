import WorkflowEngine.Execution.FanOut
import WorkflowEngine.Proofs.Steps

/-!
# References of valid workflows

Whatever a step of a valid workflow refers to is a step of the same workflow.  Every
schedule of the workflow finds that step by its identifier, at one position.
-/

namespace WorkflowEngine

theorem Step.mem_references_subStep
    {step : Step}
    {id : String}
    (listed : id ∈ step.subSteps) :
    (.subStep, id) ∈ step.references :=
  mem_references_iff.mpr (mem_subSteps_iff.mp listed)

namespace Workflow

variable {workflow : Workflow} {step : Step}

/-- Every step to which a step of a valid workflow refers is there. -/
theorem exists_step_of_reference
    (valid : workflow.isValid = true)
    (member : step ∈ workflow.steps)
    {reference : ReferenceField × String}
    (refers : reference ∈ step.references) :
    ∃ target ∈ workflow.steps, target.id = reference.2 :=
  (isValid_iff_isWellFormed.mp valid).known step member (Step.mem_references_iff.mp refers)

/-- A step of a valid workflow that is itself to go on elsewhere says where. -/
theorem fallbackStep_ne_none
    (valid : workflow.isValid = true)
    (member : step ∈ workflow.steps)
    (own : step.failure.action = some .goto) :
    step.failure.fallbackStep ≠ none :=
  ((isValid_iff_isWellFormed.mp valid).steps step member).complete own

/-- No parallel step of a valid workflow lists itself. -/
theorem id_notMem_subSteps
    (valid : workflow.isValid = true)
    (member : step ∈ workflow.steps)
    (parallel : step.type = .parallel) :
    step.id ∉ step.subSteps := by
  rw [Step.mem_subSteps_iff]
  exact (((isValid_iff_isWellFormed.mp valid).steps step member).fansOut parallel).2

end Workflow

namespace Schedule

variable
  {schedule : Schedule}
  {workflow : Workflow}
  {step : Step}

/-! ## Positions -/

/-- A schedule finds a step by its identifier, at one position only. -/
structure Finds (schedule : Schedule) (id : String) (position : Nat) : Prop where
  found : schedule.position? id = some position
  here : ∃ target, schedule.steps[position]? = some target ∧ target.id = id
  only : ∀ other target, schedule.steps[other]? = some target → target.id = id →
    other = position

section

variable (follows : schedule.steps = workflow.orderedSteps)
include follows

theorem mem_steps_of_mem (member : step ∈ workflow.steps) : step ∈ schedule.steps := by
  rw [follows]
  exact workflow.orderedSteps_perm.mem_iff.mpr member

theorem exists_position_of_mem (member : step ∈ workflow.steps) :
    ∃ position : Nat, schedule.steps[position]? = some step :=
  List.mem_iff_getElem?.mp (mem_steps_of_mem follows member)

variable (valid : workflow.isValid = true)
include valid

theorem nodup_ids : (schedule.steps.map Step.id).Nodup := by
  rw [follows]
  exact (workflow.orderedSteps_perm.map Step.id).nodup_iff.mpr
    (Workflow.nodup_ids_of_isValid valid)

/-- A step is found by its identifier. -/
theorem step?_eq_some_of_mem (member : step ∈ workflow.steps) :
    schedule.step? step.id = some step :=
  find?_id_eq_some (nodup_ids follows valid) (mem_steps_of_mem follows member)

/-- A step has one position. -/
theorem position?_eq_some_iff {id : String} {position : Nat} :
    schedule.position? id = some position ↔
      ∃ step, schedule.steps[position]? = some step ∧ step.id = id := by
  unfold position?
  rw [List.findIdx?_eq_some_iff_getElem]
  constructor
  · rintro ⟨bound, found, -⟩
    exact ⟨_, List.getElem?_eq_getElem bound, by simpa using found⟩
  · rintro ⟨step, here, rfl⟩
    obtain ⟨bound, rfl⟩ := List.getElem?_eq_some_iff.mp here
    refine ⟨bound, by simp, fun earlier before => ?_⟩
    have apart := List.pairwise_iff_getElem.mp (nodup_ids follows valid) earlier position
      (by rw [List.length_map]; omega) (by rwa [List.length_map]) before
    simpa using apart

/-- A step is found by its identifier, at no other position than its own. -/
theorem finds_of_mem (member : step ∈ workflow.steps) :
    ∃ position, schedule.Finds step.id position := by
  obtain ⟨position, here⟩ := exists_position_of_mem follows member
  have found : schedule.position? step.id = some position :=
    (position?_eq_some_iff follows valid).mpr ⟨step, here, rfl⟩
  refine ⟨position, found, ⟨step, here, rfl⟩, fun other target there named => ?_⟩
  have elsewhere : schedule.position? step.id = some other :=
    (position?_eq_some_iff follows valid).mpr ⟨target, there, named⟩
  exact Option.some.inj (elsewhere.symm.trans found)

/-- Whatever a step refers to is found. -/
theorem finds_of_refersTo
    (member : step ∈ workflow.steps)
    {field : ReferenceField}
    {id : String}
    (refers : step.RefersTo field id) :
    ∃ position, schedule.Finds id position := by
  obtain ⟨target, known, rfl⟩ :=
    (Workflow.isValid_iff_isWellFormed.mp valid).known step member refers
  exact finds_of_mem follows valid known

/-- A parallel step runs a step for every identifier that it lists. -/
theorem ids_branches (member : step ∈ workflow.steps) :
    (schedule.branches step).map Step.id = step.subSteps := by
  have found : ∀ id ∈ step.subSteps, ∃ listed, schedule.step? id = some listed ∧
      listed.id = id := by
    intro id listed
    obtain ⟨target, known, rfl⟩ :=
      Workflow.exists_step_of_reference valid member (Step.mem_references_subStep listed)
    exact ⟨target, step?_eq_some_of_mem follows valid known, rfl⟩
  unfold branches
  generalize step.subSteps = ids at found
  induction ids with
  | nil => rfl
  | cons id rest inductionHypothesis =>
    obtain ⟨⟨listed, here, same⟩, others⟩ := List.forall_mem_cons.mp found
    rw [List.filterMap_cons_some here, List.map_cons, same, inductionHypothesis others]

end

end Schedule
end WorkflowEngine
