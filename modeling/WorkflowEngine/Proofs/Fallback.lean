import WorkflowEngine.Proofs.Reaction
import WorkflowEngine.Proofs.References
import WorkflowEngine.Proofs.Run

/-!
# Falling back on other steps

A failed step may be to go on at another one, by its own action or by that of its
workflow.  In a valid workflow every step that says so itself also says where, but a step
that takes the action of its workflow need not.  Then there is nowhere to go, and the
execution ends.
-/

namespace WorkflowEngine
namespace Step

variable
  {step : Step}
  {outcome : Outcome}
  {default : FailureAction}
  {schedule : Schedule}

/-- A failed outcome leads from a step to the one that it falls back on. -/
def FallsBack
    (step : Step)
    (outcome : Outcome)
    (default : FailureAction)
    (schedule : Schedule) : Prop :=
  ∃ target position fallback,
    step.failure.fallbackStep = some target ∧
    schedule.position? target = some position ∧
    schedule.steps[position]? = some fallback ∧ fallback.id = target ∧
    step.reaction outcome default schedule = .jump position

/-- A step takes the action of its workflow only where it has none of its own. -/
theorem action_of_effectiveAction
    (goto : step.effectiveAction default = .goto) :
    step.failure.action = some .goto ∨ step.failure.action = none ∧ default = .goto := by
  unfold effectiveAction at goto
  dsimp only at goto
  split at goto
  next => cases goto
  next =>
    cases own : step.failure.action with
    | none => exact .inr ⟨rfl, by simpa [own] using goto⟩
    | some action => exact .inl (by simpa [own] using goto)

theorem effectiveAction_of_default
    (silent : step.failure.action = none)
    (goto : default = .goto) :
    step.effectiveAction default = .goto := by
  simp [effectiveAction, silent, goto]

end Step

namespace Workflow

variable
  {workflow : Workflow}
  {schedule : Schedule}
  {step : Step}
  {outcome : Outcome}

/-- A step of a valid workflow that names its fallback goes on there. -/
theorem fallsBack_of_fallbackStep
    (valid : workflow.isValid = true)
    (follows : schedule.steps = workflow.orderedSteps)
    (member : step ∈ workflow.steps)
    (goto : step.effectiveAction workflow.policy.onFailure = .goto)
    (tolerable : (step.isCritical && outcome.raised) = false)
    {target : String}
    (named : step.failure.fallbackStep = some target) :
    step.FallsBack outcome workflow.policy.onFailure schedule := by
  obtain ⟨position, finds⟩ := schedule.finds_of_refersTo follows valid member (.fallback named)
  obtain ⟨fallback, here, same⟩ := finds.here
  refine ⟨target, position, fallback, named, finds.found, here, same, ?_⟩
  rw [Step.reaction_of_goto goto tolerable, named, Option.bind_some, finds.found]

/-- Only a step that takes the action of its workflow lacks a fallback, and then its
failure ends the execution. -/
theorem reaction_of_missing_fallback
    (valid : workflow.isValid = true)
    (member : step ∈ workflow.steps)
    (goto : step.effectiveAction workflow.policy.onFailure = .goto)
    (tolerable : (step.isCritical && outcome.raised) = false)
    (missing : step.failure.fallbackStep = none) :
    step.failure.action = none ∧ workflow.policy.onFailure = .goto ∧
      step.reaction outcome workflow.policy.onFailure schedule =
        .abort outcome.result.errorMessage := by
  rcases Step.action_of_effectiveAction goto with own | ⟨silent, default⟩
  · exact (fallbackStep_ne_none valid member own missing).elim
  · refine ⟨silent, default, ?_⟩
    rw [Step.reaction_of_goto goto tolerable, missing, Option.bind_none]

/-- A failed step of a valid workflow that is to go on elsewhere falls back on the step
that it names.  All such steps name one exactly if those do that take this action from
their workflow.  One that does not ends the execution when it fails. -/
theorem fallbacks_complete_iff
    (valid : workflow.isValid = true)
    (follows : schedule.steps = workflow.orderedSteps) :
    ((∀ step ∈ workflow.steps, step.effectiveAction workflow.policy.onFailure = .goto →
        ∀ outcome : Outcome, outcome.succeeded = false →
          (step.isCritical && outcome.raised) = false →
            step.FallsBack outcome workflow.policy.onFailure schedule) ↔
      (workflow.policy.onFailure = .goto →
        ∀ step ∈ workflow.steps, step.failure.action = none →
          step.failure.fallbackStep ≠ none)) ∧
    ∀ step ∈ workflow.steps, step.effectiveAction workflow.policy.onFailure = .goto →
      ∀ outcome : Outcome, outcome.succeeded = false →
        (step.isCritical && outcome.raised) = false →
          (step.failure.fallbackStep ≠ none →
            step.FallsBack outcome workflow.policy.onFailure schedule) ∧
          (step.failure.fallbackStep = none →
            step.failure.action = none ∧ workflow.policy.onFailure = .goto ∧
            step.reaction outcome workflow.policy.onFailure schedule =
              .abort outcome.result.errorMessage) := by
  refine ⟨⟨fun complete default step member silent missing => ?_, fun named => ?_⟩, ?_⟩
  · -- Any failed outcome that nobody raised tells of the missing fallback.
    obtain ⟨target, _, _, known, -⟩ :=
      complete step member (Step.effectiveAction_of_default silent default)
        (.failed "" false) rfl (Bool.and_false _)
    rw [missing] at known
    cases known
  · intro step member goto outcome _ tolerable
    have some : step.failure.fallbackStep ≠ none := by
      intro missing
      obtain ⟨silent, default, -⟩ :=
        @reaction_of_missing_fallback _ schedule _ _ valid member goto tolerable missing
      exact named default step member silent missing
    obtain ⟨target, known⟩ := Option.ne_none_iff_exists'.mp some
    exact fallsBack_of_fallbackStep valid follows member goto tolerable known
  · intro step member goto outcome _ tolerable
    refine ⟨fun some => ?_, reaction_of_missing_fallback valid member goto tolerable⟩
    obtain ⟨target, known⟩ := Option.ne_none_iff_exists'.mp some
    exact fallsBack_of_fallbackStep valid follows member goto tolerable known

end Workflow

/-- A workflow whose steps are to go on elsewhere when they fail.  The first one says
where. -/
def rescued : Workflow where
  id := "rescued"
  steps :=
    [{ id := "pay", type := .custom "pay", failure := { fallbackStep := some "rescue" } },
     { id := "ship", type := .custom "ship", order := 1
       failure := { fallbackStep := some "rescue" } },
     { id := "rescue", type := .custom "alert", order := 2
       failure := { action := some .stop } }]
  policy := { onFailure := .goto }

/-- Its first step leads to the last one when it fails. -/
theorem rescue_of_rescued :
    rescued.isValid = true ∧
    ∃ step ∈ rescued.steps, step.id = "pay" ∧
      step.effectiveAction rescued.policy.onFailure = .goto ∧
      step.FallsBack (.failed "down" true) rescued.policy.onFailure (.ofWorkflow rescued) ∧
      step.reaction (.failed "down" true) rescued.policy.onFailure (.ofWorkflow rescued) =
        .jump 2 := by
  have valid : rescued.isValid = true := by rfl
  have follows : (Schedule.ofWorkflow rescued).steps = rescued.orderedSteps := rfl
  obtain ⟨complete, -⟩ := Workflow.fallbacks_complete_iff valid follows
  have fallsBack := complete.mpr fun _ step member silent => by
    simp only [rescued, List.mem_cons, List.not_mem_nil, or_false] at member
    rcases member with rfl | rfl | rfl
    · simp
    · simp
    · cases silent
  exact ⟨valid, _, List.mem_of_getElem? (i := 0) rfl, rfl, rfl,
    fallsBack _ (List.mem_of_getElem? (i := 0) rfl) rfl _ rfl rfl, rfl⟩

/-- A workflow whose only step is to go on elsewhere when it fails, and does not say
where. -/
def stranded : Workflow where
  id := "stranded"
  steps := [{ id := "pay", type := .custom "pay" }]
  policy := { onFailure := .goto }

/-- It is valid all the same, and the failure of its step ends the execution. -/
theorem goto_without_fallback :
    stranded.isValid = true ∧
    (∃ step ∈ stranded.steps, step.effectiveAction stranded.policy.onFailure = .goto ∧
      ∃ outcome : Outcome, outcome.succeeded = false ∧
        (step.isCritical && outcome.raised) = false ∧
        ¬ step.FallsBack outcome stranded.policy.onFailure (.ofWorkflow stranded) ∧
        step.reaction outcome stranded.policy.onFailure (.ofWorkflow stranded) =
          .abort "down") ∧
    ∃ history record,
      Execution.Run { handled := [(.custom "pay", true)] } stranded { executionId := "run" }
        history (.done (.ended record)) ∧
      record.status = .failed := by
  have run := Execution.run_played { handled := [(.custom "pay", true)] } stranded
    { executionId := "run" } 2 [⟨.zero, .ok (.fail "down")⟩]
  obtain ⟨record, ended, failed⟩ : ∃ record,
      (Execution.played { handled := [(.custom "pay", true)] } stranded { executionId := "run" }
        2 [⟨.zero, .ok (.fail "down")⟩]).2 = .ended record ∧ record.status = .failed :=
    ⟨_, rfl, rfl⟩
  rw [ended] at run
  refine ⟨by rfl, ⟨_, List.mem_singleton_self _, rfl, .failed "down" false, rfl, rfl, ?_, rfl⟩,
    _, record, run, failed⟩
  rintro ⟨_, _, _, impossible, -⟩
  cases impossible

end WorkflowEngine
