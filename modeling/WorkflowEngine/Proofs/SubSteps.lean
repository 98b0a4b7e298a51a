import WorkflowEngine.Proofs.Evolution
import WorkflowEngine.Proofs.References

/-!
# Sub-steps and the main line

The cursor passes over every step that some step lists as a sub-step.  The type of the
step that lists it does not matter, so a step that only other than parallel steps list
never runs at all: not on the main line, and in no fan-out either.
-/

namespace WorkflowEngine

/-- A parallel step of the workflow lists a step. -/
def Workflow.HasSubStep (workflow : Workflow) (id : String) : Prop :=
  ∃ parent ∈ workflow.steps, parent.type = .parallel ∧ id ∈ parent.subSteps

namespace Schedule

/-- The cursor comes to rest on a step from some position. -/
def StopsAt (schedule : Schedule) (step : Step) : Prop :=
  ∃ position, (schedule.settleAt position).current? = some step

theorem ownsPosition_iff {schedule : Schedule} {position : Nat} :
    schedule.ownsPosition position = true ↔
      ∃ lister ∈ schedule.steps, ∃ id ∈ lister.subSteps,
        schedule.position? id = some position := by
  simp [ownsPosition]

/-- A cursor that starts at a step that may run stays there. -/
theorem settleFrom_of_isRunnable
    {schedule : Schedule}
    {position : Nat}
    {step : Step}
    (here : schedule.steps[position]? = some step)
    (runnable : schedule.isRunnable position step = true) :
    schedule.settleFrom position (schedule.steps.drop position) = position := by
  obtain ⟨bound, rfl⟩ := List.getElem?_eq_some_iff.mp here
  rw [List.drop_eq_getElem_cons bound, settleFrom, if_pos runnable]

section

variable
  {schedule : Schedule}
  {workflow : Workflow}
  {step : Step}
  (follows : schedule.steps = workflow.orderedSteps)
  (valid : workflow.isValid = true)
include follows valid

/-- The position of a step is owned if some step lists it, of whatever type. -/
theorem ownsPosition_iff_listed
    {position : Nat}
    (here : schedule.steps[position]? = some step) :
    schedule.ownsPosition position = true ↔
      ∃ lister ∈ workflow.steps, step.id ∈ lister.subSteps := by
  rw [ownsPosition_iff, follows]
  constructor
  · rintro ⟨lister, member, id, listed, found⟩
    obtain ⟨other, there, rfl⟩ := (position?_eq_some_iff follows valid).mp found
    obtain rfl := Option.some.inj (here.symm.trans there)
    exact ⟨lister, workflow.orderedSteps_perm.mem_iff.mp member, listed⟩
  · rintro ⟨lister, member, listed⟩
    exact ⟨lister, workflow.orderedSteps_perm.mem_iff.mpr member, step.id, listed,
      (position?_eq_some_iff follows valid).mpr ⟨step, here, rfl⟩⟩

theorem isOwned_iff_listed (member : step ∈ workflow.steps) :
    schedule.isOwned step.id = true ↔ ∃ lister ∈ workflow.steps, step.id ∈ lister.subSteps := by
  obtain ⟨position, here⟩ := exists_position_of_mem follows member
  have found : schedule.position? step.id = some position :=
    (position?_eq_some_iff follows valid).mpr ⟨step, here, rfl⟩
  unfold isOwned
  rw [found, Option.any_some]
  exact ownsPosition_iff_listed follows valid here

theorem isRunnable_iff
    {position : Nat}
    (here : schedule.steps[position]? = some step) :
    schedule.isRunnable position step = true ↔
      step.isActive = true ∧ ¬ ∃ lister ∈ workflow.steps, step.id ∈ lister.subSteps := by
  rw [← ownsPosition_iff_listed follows valid here]
  simp [isRunnable]

/-- The cursor rests on the active steps that no step lists. -/
theorem stopsAt_iff (member : step ∈ workflow.steps) :
    schedule.StopsAt step ↔
      step.isActive = true ∧ ¬ ∃ lister ∈ workflow.steps, step.id ∈ lister.subSteps := by
  constructor
  · rintro ⟨position, current⟩
    exact (isRunnable_iff follows valid current).mp (rests_settleAt schedule position step current)
  · intro may
    obtain ⟨position, here⟩ := exists_position_of_mem follows member
    have runnable : schedule.isRunnable position step = true :=
      (isRunnable_iff follows valid here).mpr may
    refine ⟨position, ?_⟩
    unfold current? settleAt
    dsimp only
    rw [settleFrom_of_isRunnable here runnable]
    exact here

end

end Schedule

/-- In a valid workflow the main line passes over the steps that some step lists, and over
the inactive ones.  It passes over no others than the sub-steps of parallel steps exactly
if those are all that is listed by steps of other types. -/
theorem Workflow.sub_steps_of_parallel_iff
    {workflow : Workflow}
    {schedule : Schedule}
    (valid : workflow.isValid = true)
    (follows : schedule.steps = workflow.orderedSteps) :
    ((∀ step ∈ workflow.steps,
        (schedule.isOwned step.id = true ↔ workflow.HasSubStep step.id) ∧
        (step.isActive = true → ¬ workflow.HasSubStep step.id → schedule.StopsAt step)) ↔
      ∀ lister ∈ workflow.steps, lister.type ≠ .parallel →
        ∀ id ∈ lister.subSteps, workflow.HasSubStep id) ∧
    ∀ step ∈ workflow.steps,
      (schedule.isOwned step.id = true ↔
        ∃ lister ∈ workflow.steps, step.id ∈ lister.subSteps) ∧
      (schedule.StopsAt step ↔
        step.isActive = true ∧ ¬ ∃ lister ∈ workflow.steps, step.id ∈ lister.subSteps) := by
  refine ⟨⟨fun owned lister member _ id listed => ?_, fun confined step member => ?_⟩,
    fun step member => ⟨Schedule.isOwned_iff_listed follows valid member,
      Schedule.stopsAt_iff follows valid member⟩⟩
  · -- What is listed is a step, and it is owned.
    obtain ⟨step, known, rfl⟩ :=
      exists_step_of_reference valid member (Step.mem_references_subStep listed)
    exact (owned step known).1.mp
      ((Schedule.isOwned_iff_listed follows valid known).mpr ⟨lister, member, listed⟩)
  · have listed_iff : (∃ lister ∈ workflow.steps, step.id ∈ lister.subSteps) ↔
        workflow.HasSubStep step.id := by
      constructor
      · rintro ⟨lister, known, listed⟩
        by_cases parallel : lister.type = .parallel
        · exact ⟨lister, known, parallel, listed⟩
        · exact confined lister known parallel step.id listed
      · rintro ⟨parent, known, -, listed⟩
        exact ⟨parent, known, listed⟩
    rw [Schedule.isOwned_iff_listed follows valid member,
      Schedule.stopsAt_iff follows valid member, listed_iff]
    exact ⟨Iff.rfl, And.intro⟩

/-- A workflow with a parallel step, its sub-step, and a step that nobody lists. -/
def packing : Workflow where
  id := "packing"
  steps :=
    [{ id := "pack", type := .parallel
       config := .object [("stepIds", .array [.text "wrap"])] },
     { id := "wrap", type := .custom "wrap", order := 1 },
     { id := "ship", type := .custom "ship", order := 2 }]

/-- The sub-step is owned, and the main line comes to the last step. -/
theorem sub_steps_of_packing :
    packing.isValid = true ∧
    packing.HasSubStep "wrap" ∧ (Schedule.ofWorkflow packing).isOwned "wrap" = true ∧
    ∃ step ∈ packing.steps, step.id = "ship" ∧ ¬ packing.HasSubStep "ship" ∧
      (Schedule.ofWorkflow packing).StopsAt step := by
  have valid : packing.isValid = true := by rfl
  have follows : (Schedule.ofWorkflow packing).steps = packing.orderedSteps := rfl
  obtain ⟨confined, -⟩ := Workflow.sub_steps_of_parallel_iff valid follows
  have owned := confined.mpr fun lister member single id listed => by
    simp only [packing, List.mem_cons, List.not_mem_nil, or_false] at member
    rcases member with rfl | rfl | rfl
    · exact (single rfl).elim
    · cases listed
    · cases listed
  have wrap : packing.HasSubStep "wrap" :=
    ⟨_, List.mem_of_getElem? (i := 0) rfl, rfl, List.mem_singleton_self _⟩
  have ship : ¬ packing.HasSubStep "ship" := by
    rintro ⟨parent, member, -, listed⟩
    simp only [packing, List.mem_cons, List.not_mem_nil, or_false] at member
    rcases member with rfl | rfl | rfl
    · exact absurd listed (by decide)
    · cases listed
    · cases listed
  exact ⟨valid, wrap, (owned _ (List.mem_of_getElem? (i := 1) rfl)).1.mpr wrap, _,
    List.mem_of_getElem? (i := 2) rfl, rfl, ship,
    (owned _ (List.mem_of_getElem? (i := 2) rfl)).2 rfl ship⟩

/-- A workflow without any parallel step, where the configuration of the first step
happens to name the second one. -/
def shadowed : Workflow where
  id := "shadowed"
  steps :=
    [{ id := "report", type := .apiCall
       config := .object [("stepIds", .array [.text "ship"])] },
     { id := "ship", type := .custom "ship", order := 1 }]

/-- The second step is owned all the same.  A run completes without it. -/
theorem owned_without_parallel_step :
    shadowed.isValid = true ∧
    (∃ step ∈ shadowed.steps, step.id = "ship" ∧ step.isActive = true ∧
      ¬ shadowed.HasSubStep step.id ∧ (Schedule.ofWorkflow shadowed).isOwned step.id = true ∧
      ¬ (Schedule.ofWorkflow shadowed).StopsAt step) ∧
    ∃ history record,
      Execution.Run { handled := [(.apiCall, true), (.custom "ship", true)] } shadowed
        { executionId := "run" } history (.done (.ended record)) ∧
      history.invocations.map (fun called => called.1.step.id) = ["report"] ∧
      record.status = .completed ∧ record.skippedSteps = 1 := by
  have run := Execution.run_played { handled := [(.apiCall, true), (.custom "ship", true)] }
    shadowed { executionId := "run" } 3 []
  obtain ⟨record, ended, completed, skipped⟩ : ∃ record,
      (Execution.played { handled := [(.apiCall, true), (.custom "ship", true)] } shadowed
        { executionId := "run" } 3 []).2 = .ended record ∧
      record.status = .completed ∧ record.skippedSteps = 1 := ⟨_, rfl, rfl, rfl⟩
  rw [ended] at run
  have valid : shadowed.isValid = true := by rfl
  have follows : (Schedule.ofWorkflow shadowed).steps = shadowed.orderedSteps := rfl
  have ship : { id := "ship", type := .custom "ship", order := 1 : Step } ∈ shadowed.steps :=
    List.mem_of_getElem? (i := 1) rfl
  have listed : ∃ lister ∈ shadowed.steps, "ship" ∈ lister.subSteps :=
    ⟨_, List.mem_of_getElem? (i := 0) rfl, List.mem_singleton_self _⟩
  refine ⟨valid, ⟨_, ship, rfl, rfl, ?_, by rfl, fun stops => ?_⟩,
    _, record, run, rfl, completed, skipped⟩
  · rintro ⟨parent, member, parallel, -⟩
    simp only [shadowed, List.mem_cons, List.not_mem_nil, or_false] at member
    rcases member with rfl | rfl <;> cases parallel
  · exact ((Schedule.stopsAt_iff follows valid ship).mp stops).2 listed

end WorkflowEngine
