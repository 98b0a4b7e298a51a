import WorkflowEngine.Execution.Dispatch
import WorkflowEngine.Mapping
import WorkflowEngine.Schedule

/-!
# Fan-out

A parallel step runs its sub-steps at the same time, all of them over the
context as it was before.  Handlers are called in the order in which the
sub-steps are listed, and the step waits for the slowest of them.
-/

namespace WorkflowEngine

/-- A sub-step after the fan-out. -/
inductive Branch where
  | skipped (step : Step)
  | ran (step : Step) (input : Object) (startedAt : Timestamp) (outcome : Outcome)
deriving Inhabited

namespace Branch

/-- The sub-step of a branch. -/
def step : Branch → Step
  | .skipped step => step
  | .ran step .. => step

/-- The time that a branch takes. -/
def duration : Branch → Span
  | .skipped _ => .zero
  | .ran _ _ _ outcome => outcome.duration

/-- The time that the slowest branch takes. -/
def longest (branches : List Branch) : Span :=
  branches.foldl
    (fun longest branch =>
      if branch.duration.outlasts longest then branch.duration else longest) .zero

end Branch

/-- The steps that a parallel step runs; identifiers that name no step are
passed over. -/
def Schedule.branches (schedule : Schedule) (parent : Step) : List Step :=
  parent.subSteps.filterMap schedule.step?

section

variable
  (environment : Environment)
  (context : Context)

/-- Runs one sub-step without waiting for its handler. -/
def runBranch (step : Step) : Program Branch :=
  if !step.isActive then return .skipped step
  else
    match Condition.evaluateAll context.semantics step.conditions (.object context.data) with
    | .ok false => return .skipped step
    | .error error => do
      let startedAt ← Program.request .now
      return .ran step [] startedAt (.failed (EngineError.conditionEvaluation error).message true)
    | .ok true => do
      let startedAt ← Program.request .now
      match step.resolveInput context with
      | .error missing => return .ran step [] startedAt (.failed missing.message false)
      | .ok input =>
        match Dispatch.ofStep environment context step input with
        | .settled outcome => return .ran step input startedAt outcome
        | .call invocation =>
          let reply ← Program.request (.invoke invocation)
          return .ran step input startedAt reply.outcome

/-- Runs sub-steps in turn without waiting for their handlers. -/
def runBranches : List Step → Program (List Branch)
  | [] => return []
  | step :: rest => do
    let branch ← runBranch environment context step
    let branches ← runBranches rest
    return branch :: branches

/-- Runs the sub-steps of a parallel step within a limit; nothing remains of
them when the limit is reached first. -/
def fanOutWithin (steps : List Step) (limit : Limit) : Program (Option (List Branch)) := do
  let branches ← runBranches environment context steps
  match ← waitWithin limit (Branch.longest branches) with
  | some _ => return some branches
  | none => return none

end

end WorkflowEngine
