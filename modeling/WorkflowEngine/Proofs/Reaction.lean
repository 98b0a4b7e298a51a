import WorkflowEngine.Execution.Reaction

/-!
# What happens to failed steps

A raised error of a critical step overrides its action.  Otherwise the action
decides, and a parallel step is never tried again.  A step to go on at counts only where
it has a position.
-/

namespace WorkflowEngine
namespace Step

variable
  {step : Step}
  {outcome : Outcome}
  {default : FailureAction}
  {schedule : Schedule}

/-- A parallel step is never tried again. -/
theorem type_ne_parallel_of_effectiveAction
    (retried : step.effectiveAction default = .retry) :
    step.type ≠ .parallel := by
  intro parallel
  unfold effectiveAction at retried
  dsimp only at retried
  split at retried
  next => cases retried
  next kept => simp [parallel, retried] at kept

/-- A critical step that raised aborts whatever its action is. -/
theorem reaction_of_critical
    (critical : step.isCritical = true)
    (raised : outcome.raised = true) :
    ∃ message, step.reaction outcome default schedule = .abort message := by
  unfold reaction
  rw [if_pos (by simp [critical, raised])]
  exact ⟨_, rfl⟩

theorem reaction_eq_retry_iff :
    step.reaction outcome default schedule = .retry ↔
      (step.isCritical && outcome.raised) = false ∧ step.effectiveAction default = .retry := by
  cases critical : step.isCritical && outcome.raised with
  | true =>
    obtain ⟨critical, raised⟩ := Bool.and_eq_true_iff.mp critical
    have aborts : ∃ message, step.reaction outcome default schedule = .abort message :=
      reaction_of_critical critical raised
    obtain ⟨message, aborted⟩ := aborts
    simp [aborted]
  | false =>
    unfold reaction
    rw [if_neg (by simp [critical])]
    cases step.effectiveAction default with
    | «continue» => cases step.failure.continueStep.bind schedule.position? <;> simp
    | goto => cases step.failure.fallbackStep.bind schedule.position? <;> simp
    | _ => simp

/-- What makes a failed step end its execution. -/
theorem exists_reaction_eq_abort_iff :
    (∃ message, step.reaction outcome default schedule = .abort message) ↔
      (step.isCritical && outcome.raised) = true ∨
        step.effectiveAction default = .stop ∨
        (step.effectiveAction default = .goto ∧
          step.failure.fallbackStep.bind schedule.position? = none) := by
  cases critical : step.isCritical && outcome.raised with
  | true =>
    obtain ⟨critical, raised⟩ := Bool.and_eq_true_iff.mp critical
    simp [reaction_of_critical critical raised]
  | false =>
    unfold reaction
    rw [if_neg (by simp [critical])]
    cases step.effectiveAction default with
    | «continue» => cases step.failure.continueStep.bind schedule.position? <;> simp
    | goto => cases step.failure.fallbackStep.bind schedule.position? <;> simp
    | _ => simp

/-- A step that is to go on all the same does so where it says, if that has a position. -/
theorem reaction_of_continue
    (goesOn : step.effectiveAction default = .continue)
    (tolerable : (step.isCritical && outcome.raised) = false) :
    step.reaction outcome default schedule =
      match step.failure.continueStep.bind schedule.position? with
      | some position => .jump position
      | none => .advance := by
  unfold reaction
  cases step.failure.continueStep.bind schedule.position? with
  | none => simp [tolerable, goesOn]
  | some position => simp [tolerable, goesOn]

/-- A step that is to go on elsewhere does so if its fallback has a position. -/
theorem reaction_of_goto
    (goto : step.effectiveAction default = .goto)
    (tolerable : (step.isCritical && outcome.raised) = false) :
    step.reaction outcome default schedule =
      match step.failure.fallbackStep.bind schedule.position? with
      | some position => .jump position
      | none => .abort outcome.result.errorMessage := by
  unfold reaction
  cases step.failure.fallbackStep.bind schedule.position? with
  | none => simp [tolerable, goto]
  | some position => simp [tolerable, goto]

end Step
end WorkflowEngine
