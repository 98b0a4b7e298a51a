import WorkflowEngine.Action.Basic
import WorkflowEngine.Schedule

/-!
# Reactions to failed steps

What happens after a step has failed: its own policy decides, or that of its
workflow, unless the step is critical and its handler raised an error.
-/

namespace WorkflowEngine

/-- What happens after a failed step. -/
inductive Reaction where
  /-- The execution ends as failed. -/
  | abort (message : String)
  /-- The step counts as failed and the next one follows. -/
  | advance
  /-- The step counts as skipped and the next one follows. -/
  | skip
  /-- The step counts as failed and the one at a position follows. -/
  | jump (position : Nat)
  /-- The step is tried again. -/
  | retry
deriving Repr, DecidableEq, Inhabited

/-- The action for a failed step: its own, or else the default.  A parallel
step is never tried again. -/
def Step.effectiveAction (step : Step) (default : FailureAction) : FailureAction :=
  let action := step.failure.action.getD default
  if action = .retry && step.type = .parallel then .stop else action

/-- The reaction to a failed outcome of a step. -/
def Step.reaction
    (step : Step)
    (outcome : Outcome)
    (default : FailureAction)
    (schedule : Schedule) : Reaction :=
  let message := outcome.result.errorMessage
  if step.isCritical && outcome.raised then
    .abort ("critical step '" ++ step.id ++ "' raised: " ++ message)
  else
    match step.effectiveAction default with
    | .stop => .abort message
    | .continue =>
      match step.failure.continueStep.bind schedule.position? with
      | some position => .jump position
      | none => .advance
    | .retry => .retry
    | .skip => .skip
    | .goto =>
      match step.failure.fallbackStep.bind schedule.position? with
      | some position => .jump position
      | none => .abort message

end WorkflowEngine
