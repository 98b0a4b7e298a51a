import WorkflowEngine.Proofs.Branching
import WorkflowEngine.Proofs.References
import WorkflowEngine.Proofs.Trail

/-!
# How often sub-steps run

A parallel step runs a sub-step as often as it lists it.  A workflow is valid whatever
that number is, so only where no identifier is listed twice does every sub-step run at
most once.
-/

namespace WorkflowEngine

/-- What a step is dispatched with comes from the steps that are dispatched. -/
theorem Context.ids_dispatch? (context : Context) (steps : List Step) :
    (steps.filterMap context.dispatch?).map (fun invocation => invocation.step.id) =
      (steps.filter fun step => (context.dispatch? step).isSome).map Step.id := by
  induction steps with
  | nil => rfl
  | cons step rest inductionHypothesis =>
    rw [List.filterMap_cons, List.filter_cons]
    cases dispatched : context.dispatch? step with
    | none => exact inductionHypothesis
    | some invocation =>
      rw [List.map_cons, inductionHypothesis, Context.step_of_dispatch? dispatched]
      rfl

namespace Schedule

variable
  {schedule : Schedule}
  {workflow : Workflow}
  {parent sub : Step}

/-- Only a sub-step itself goes by its identifier in a fan-out. -/
theorem branch_eq_of_id
    (follows : schedule.steps = workflow.orderedSteps)
    (valid : workflow.isValid = true)
    (known : sub ∈ workflow.steps)
    {listed : Step}
    (branch : listed ∈ schedule.branches parent)
    (named : listed.id = sub.id) :
    listed = sub := by
  obtain ⟨-, found⟩ := listed_of_mem_branches branch
  rw [named, step?_eq_some_of_mem follows valid known] at found
  exact (Option.some.inj found).symm

/-- A fan-out has a sub-step as often as it is listed.  Either all of these have some
property, or none of them. -/
theorem count_branches
    (follows : schedule.steps = workflow.orderedSteps)
    (valid : workflow.isValid = true)
    (member : parent ∈ workflow.steps)
    (known : sub ∈ workflow.steps)
    (property : Step → Bool) :
    (((schedule.branches parent).filter property).map Step.id).count sub.id =
      if property sub then parent.subSteps.count sub.id else 0 := by
  have alike : (schedule.branches parent).countP
      (fun listed => listed.id == sub.id && property listed) =
        (schedule.branches parent).countP
          (fun listed => listed.id == sub.id && property sub) := by
    refine List.countP_congr fun listed branch => ?_
    by_cases named : listed.id = sub.id
    · rw [branch_eq_of_id follows valid known branch named]
    · simp [named]
  rw [List.count_eq_countP, List.countP_map, List.countP_filter]
  refine alike.trans ?_
  rw [← ids_branches follows valid member, List.count_eq_countP, List.countP_map]
  cases property sub with
  | true => simp [Function.comp_def]
  | false => simp

end Schedule

namespace Execution

section

variable
  {environment : Environment}
  {workflow : Workflow}
  {call : Call}
  {execution last : Execution}
  {parent : Step}
  {history acting : History}
  {flow : Flow}

/-- Whatever comes of it, the visit of a parallel step runs a sub-step as often as the
parallel step lists it.  The context decides whether it is dispatched and whether it comes
to an outcome, and the latter is recorded unless time runs out. -/
theorem Run.sub_steps_as_listed
    (valid : workflow.isValid = true)
    (run : Run environment workflow call history (.done (.turn execution)))
    (current : execution.schedule.current? = some parent)
    (parallel : parent.type = .parallel)
    (acted : execution.activity.Ends acting (last, flow)) :
    execution.Withholds parent acting (last, flow) ∨
      ∃ branches, execution.FansOut parent branches acting flow ∧
        acting.invocations.map .ofCall =
          (Branch.works? execution.context branches).filter (·.isCall environment) ∧
        ∀ sub ∈ workflow.steps, sub.id ∈ parent.subSteps →
          ((Branch.works? execution.context branches).map
              fun work => work.invocation.step.id).count sub.id =
            (if (execution.context.dispatch? sub).isSome then parent.subSteps.count sub.id
              else 0) ∧
          (¬ flow.IsTimedOut →
            (acting.attempts.map StepRecord.stepId).count sub.id =
              if execution.context.enters sub then parent.subSteps.count sub.id else 0) ∧
          (flow.IsTimedOut → (acting.attempts.map StepRecord.stepId).count sub.id = 0) := by
  rcases (acted_of_ends acted).fansOut current parallel with
    withholds | ⟨branches, fansOut⟩
  · exact .inl withholds
  refine .inr ⟨branches, fansOut, ?_⟩
  have follows := run.follows
  have member : parent ∈ workflow.steps :=
    follows.mem_steps (Schedule.mem_steps_of_current? current)
  obtain ⟨⟨fanning, fanned, calls⟩, recorded⟩ := fansOut
  refine ⟨?_, fun sub known listed => ?_⟩
  · rw [calls, ← follows.environment_eq]
    exact fanned.ofCall_eq
  have dispatched : (Branch.works? execution.context branches).map
      (fun work => work.invocation.step.id) =
        ((execution.schedule.branches parent).filter fun step =>
          (execution.context.dispatch? step).isSome).map Step.id := by
    rw [← Context.ids_dispatch?, ← fanned.works?_eq, List.map_map]
    rfl
  -- The record of the parallel step is not that of a sub-step.
  have other : [parent.id].count sub.id = 0 := List.count_eq_zero.mpr fun same =>
    Workflow.id_notMem_subSteps valid member parallel (List.mem_singleton.mp same ▸ listed)
  refine ⟨?_, fun timely => ?_, fun late => ?_⟩
  · rw [dispatched, Schedule.count_branches follows.steps valid member known]
  · rcases recorded with ⟨late, -⟩ | ⟨-, records⟩
    · exact (timely late).elim
    · rw [records, List.count_append, fanned.ranIds_eq,
        Schedule.count_branches follows.steps valid member known, other, Nat.add_zero]
  · rcases recorded with ⟨-, records⟩ | ⟨timely, -⟩
    · rw [records, other]
    · exact (timely late).elim

end

/-- A sub-step that is listed once is dispatched once, and recorded once. -/
theorem sub_steps_of_spread :
    spread.isValid = true ∧
    ∃ history execution acting last flow parent branches,
      Run { handled := [(.custom "call", true)] } spread { executionId := "run" } history
        (.done (.turn execution)) ∧
      execution.schedule.current? = some parent ∧ parent.type = .parallel ∧
      execution.activity.Ends acting (last, flow) ∧
      parent.subSteps = ["branch"] ∧
      execution.FansOut parent branches acting flow ∧
      ((Branch.works? execution.context branches).map
        fun work => work.invocation.step.id).count "branch" = 1 ∧
      (acting.attempts.map StepRecord.stepId).count "branch" = 1 := by
  have run := run_played { handled := [(.custom "call", true)] } spread
    { executionId := "run" } 0 []
  obtain ⟨execution, parent, sub, reached, current, parallel, listed, known, named, dispatched,
      enters, called, timely⟩ :
      ∃ (execution : Execution) (parent sub : Step),
        (played { handled := [(.custom "call", true)] } spread { executionId := "run" } 0 []).2 =
          .turn execution ∧
        execution.schedule.current? = some parent ∧ parent.type = .parallel ∧
        parent.subSteps = ["branch"] ∧ spread.steps[1]? = some sub ∧ sub.id = "branch" ∧
        (execution.context.dispatch? sub).isSome = true ∧
        execution.context.enters sub = true ∧
        (execution.activity.play spreadReplies).1.invocations ≠ [] ∧
        (execution.activity.play spreadReplies).2.1.2 = .goOn :=
    ⟨_, _, _, rfl, rfl, rfl, rfl, rfl, rfl, rfl, rfl, nofun, rfl⟩
  rw [reached] at run
  have valid : spread.isValid = true := by rfl
  rcases run.sub_steps_as_listed valid current parallel
    (execution.activity.ends_play spreadReplies) with
    withholds | ⟨branches, fansOut, -, counted⟩
  · exact (called withholds.invocations_eq_nil).elim
  · have member : sub.id ∈ parent.subSteps := by
      rw [listed, named]
      exact List.mem_singleton_self _
    obtain ⟨dispatches, records, -⟩ := counted sub (List.mem_of_getElem? known) member
    rw [named, dispatched, listed] at dispatches
    rw [named, enters, listed, timely] at records
    exact ⟨valid, _, execution, _, _, _, parent, branches, run, current, parallel,
      execution.activity.ends_play spreadReplies, listed, fansOut, dispatches, records id⟩

/-- A workflow with a parallel step that lists its only sub-step twice. -/
def doubled : Workflow where
  id := "doubled"
  steps :=
    [{ id := "fan", type := .parallel
       config := .object [("stepIds", .array [.text "order", .text "order"])] },
     { id := "order", type := .custom "order", order := 1 }]

/-- It is valid, and its sub-step is run twice by one visit of the parallel step. -/
theorem sub_step_run_twice :
    doubled.isValid = true ∧
    ∃ history execution acting last flow parent,
      Run { handled := [(.custom "order", true)] } doubled { executionId := "run" } history
        (.done (.turn execution)) ∧
      execution.schedule.current? = some parent ∧ parent.type = .parallel ∧
      execution.activity.Ends acting (last, flow) ∧
      acting.invocations.map (fun called => called.1.step.id) = ["order", "order"] ∧
      acting.attempts.map StepRecord.stepId = ["order", "order", "fan"] := by
  have run := run_played { handled := [(.custom "order", true)] } doubled
    { executionId := "run" } 0 []
  obtain ⟨execution, parent, reached, current, parallel, calls, records⟩ :
      ∃ (execution : Execution) (parent : Step),
        (played { handled := [(.custom "order", true)] } doubled { executionId := "run" } 0 []).2 =
          .turn execution ∧
        execution.schedule.current? = some parent ∧ parent.type = .parallel ∧
        (execution.activity.play []).1.invocations.map (fun called => called.1.step.id) =
          ["order", "order"] ∧
        (execution.activity.play []).1.attempts.map StepRecord.stepId =
          ["order", "order", "fan"] :=
    ⟨_, _, rfl, rfl, rfl, rfl, rfl⟩
  rw [reached] at run
  exact ⟨by rfl, _, execution, _, _, _, parent, run, current, parallel,
    execution.activity.ends_play [], calls, records⟩

end Execution
end WorkflowEngine
