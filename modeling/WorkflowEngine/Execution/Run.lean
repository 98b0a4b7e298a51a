import WorkflowEngine.Execution.Basic

/-!
# Running executions

An execution runs in turns.  A turn looks at the signal, runs the step under
the cursor, and brings the record up to date; a paused execution spends a turn
waiting for a signal.
-/

namespace WorkflowEngine
namespace Execution

/-- What a step leads to: the execution goes on, or it ends. -/
inductive Flow where
  | goOn
  | finish (ending : Ending)
deriving Inhabited

variable (execution : Execution)

/-- Goes on after a successful outcome. -/
def succeed (step : Step) (outcome : Outcome) : Execution × Flow :=
  let result := outcome.result
  -- The sub-steps of a parallel step have stored their own results.
  let context :=
    if step.type = .parallel then execution.context
    else step.applyOutput result.data execution.context
  let execution := { execution with context := context }.note step.id .completed
  if result.skipRemaining then
    ({ execution with schedule := execution.schedule.stop }, .finish .completed)
  else
    let target :=
      if step.type = .condition then
        if ((Dict.find? "result" result.data).bind Json.bool?).getD false then step.onTrue
        else step.onFalse
      else result.nextStep
    match target with
    | some target => (execution.route target, .goOn)
    | none => (execution.advance, .goOn)

/-- Adds the further attempts at a step to the trail. -/
def writeRetries (step : Step) (input : Object) : List Attempt → Execution → Program Execution
  | [], execution => return execution
  | attempt :: rest, execution => do
    let execution := { execution with retries := execution.retries + 1 }
    let execution ← execution.write step input attempt.startedAt attempt.number attempt.outcome
    writeRetries step input rest execution

/-- Tries a failed step again. -/
def retry (step : Step) (input : Object) (first : Outcome) : Program (Execution × Flow) := do
  let clock ← Program.request .clock
  match execution.remaining? clock with
  | none => return (execution.note step.id .failed, .finish (.timedOut (some step.id)))
  | some remaining =>
    let policy := RetryPolicy.ofStep step execution.environment.settings
    let retried ← retryWithin execution.environment execution.context step input policy first
      (some remaining.ticks)
    let execution ← writeRetries step input retried.attempts execution
    match retried.outcome with
    | none => return (execution.note step.id .failed, .finish (.timedOut (some step.id)))
    | some outcome =>
      if outcome.succeeded then return execution.succeed step outcome
      else
        let cause := FailureCause.step outcome.result.errorMessage
        return (execution.note step.id .failed, .finish (.failed step.id cause))

/-- Reacts to a failed outcome; conditions that cannot be evaluated are not
evaluated again. -/
def fail
    (step : Step)
    (input : Object)
    (outcome : Outcome)
    (condition : Option ConditionError) : Program (Execution × Flow) :=
  let cause (message : String) : FailureCause :=
    match condition with
    | some error => .condition error
    | none => .step message
  match
    step.reaction outcome execution.workflow.policy.onFailure execution.schedule, condition
  with
  | .abort message, _ =>
    return (execution.note step.id .failed, .finish (.failed step.id (cause message)))
  | .retry, some error =>
    return (execution.note step.id .failed, .finish (.failed step.id (.condition error)))
  | .retry, none => execution.retry step input outcome
  | .advance, _ => return ((execution.note step.id .failed).advance, .goOn)
  | .skip, _ => return ((execution.note step.id .skipped).advance, .goOn)
  | .jump position, _ => return ((execution.note step.id .failed).jumpTo position, .goOn)

/-- Ends an execution whose time ran out during a step. -/
def interrupt
    (step : Step)
    (input : Object)
    (startedAt : Timestamp)
    (duration : Span) : Program (Execution × Flow) := do
  let outcome : Outcome := { Outcome.failed "interrupted by execution timeout" false with duration }
  let execution ← execution.write step input startedAt 0 outcome
  return (execution.note step.id .failed, .finish (.timedOut (some step.id)))

/-- What the branches of a parallel step amount to. -/
structure Settlement where
  data : Object := []
  failures : List String := []
  raised : Bool := false
deriving Inhabited

/-- Takes the result of a sub-step that ran into account. -/
def Settlement.add (settlement : Settlement) (step : Step) (outcome : Outcome) : Settlement where
  data := Dict.insert step.id (.object outcome.result.data) settlement.data
  failures :=
    if outcome.succeeded then settlement.failures
    else settlement.failures ++ [step.id ++ ": " ++ outcome.result.errorMessage]
  raised := settlement.raised || (!outcome.succeeded && outcome.raised)

/-- The outcome of a parallel step. -/
def Settlement.outcome (settlement : Settlement) (parent : Step) (duration : Span) : Outcome :=
  let result : StepResult :=
    if settlement.failures.isEmpty then .succeed
    else
      .fail ("parallel step '" ++ parent.id ++ "' failed: " ++
        "; ".intercalate settlement.failures)
  { result := { result with data := settlement.data }
    raised := settlement.raised
    duration := duration }

/-- The execution after a sub-step that ran. -/
def settleBranch (step : Step) (outcome : Outcome) : Execution :=
  if outcome.succeeded then
    { execution with context := step.applyOutput outcome.result.data execution.context }.note
      step.id .completed
  else execution.note step.id .failed

/-- Takes the branches of a parallel step into account, in their order. -/
def settleBranches :
    List Branch → Settlement → Execution → Program (Execution × Settlement)
  | [], settlement, execution => return (execution, settlement)
  | .skipped step :: rest, settlement, execution =>
    settleBranches rest settlement (execution.note step.id .skipped)
  | .ran step input startedAt outcome :: rest, settlement, execution => do
    let execution ← execution.write step input startedAt 0 outcome
    settleBranches rest (settlement.add step outcome) (execution.settleBranch step outcome)

/-- Makes the first attempt at a step within a limit; a parallel step fans
out. -/
def firstAttempt (step : Step) (input : Object) (limit : Span) :
    Program (Execution × Option Outcome) :=
  if step.type = .parallel then do
    let steps := execution.schedule.branches step
    match ← fanOutWithin execution.environment execution.context steps (some limit.ticks) with
    | none => return (execution, none)
    | some branches =>
      let (execution, settlement) ← settleBranches branches {} execution
      return (execution, some (settlement.outcome step (Branch.longest branches)))
  else do
    match ← attemptWithin execution.environment execution.context step input
        (some limit.ticks) with
    | none => return (execution, none)
    | some (outcome, _) => return (execution, some outcome)

/-- Runs a step whose conditions hold and whose input is known. -/
def perform (step : Step) (input : Object) : Program (Execution × Flow) := do
  let clock ← Program.request .clock
  match execution.remaining? clock with
  | none => return (execution, .finish (.timedOut (some step.id)))
  | some remaining =>
    let startedAt ← Program.request .now
    match ← execution.firstAttempt step input remaining with
    | (execution, none) => execution.interrupt step input startedAt remaining
    | (execution, some outcome) =>
      let execution ← execution.write step input startedAt 0 outcome
      if outcome.succeeded then return execution.succeed step outcome
      else execution.fail step input outcome none

/-- Runs a step. -/
def runStep (step : Step) : Program (Execution × Flow) :=
  match
    Condition.evaluateAll execution.context.semantics step.conditions
      (.object execution.context.data)
  with
  | .ok false => return ((execution.note step.id .skipped).advance, .goOn)
  | .error error => do
    let outcome := Outcome.failed (EngineError.conditionEvaluation error).message true
    let execution ← execution.writeNow step outcome
    execution.fail step [] outcome (some error)
  | .ok true =>
    match step.resolveInput execution.context with
    | .error missing => do
      let outcome := Outcome.failed missing.message false
      let execution ← execution.writeNow step outcome
      execution.fail step [] outcome none
    | .ok input => execution.perform step input

/-- Runs the step under the cursor, if there is one and there is time. -/
def step : Program (Execution × Flow) :=
  match execution.schedule.current? with
  | none => return (execution, .finish .completed)
  | some step => do
    let clock ← Program.request .clock
    if execution.isTimedOut clock then return (execution, .finish (.timedOut none))
    else
      let record := { execution.record with currentStep := some step.id }
      let (execution, flow) ← { execution with record := record }.runStep step
      let execution ← execution.sync
      return (execution, flow)

/-- Sets the status in the record, stores the record and makes an event
known. -/
def change (status : ExecutionStatus) (kind : EventKind) : Program Execution := do
  let execution ← { execution with record := { execution.record with status := status } }.sync
  execution.announce kind
  return execution

/-- Turns to waiting. -/
def pause : Program (Execution × Flow) := do
  let execution ← execution.change .paused .paused
  return ({ execution with isPaused := true }, .goOn)

/-- Goes on after a pause, with the step under the cursor. -/
def resume : Program (Execution × Flow) := do
  let execution ← { execution with isPaused := false }.change .running .resumed
  execution.step

/-- What an execution that is not paused does in a turn. -/
def runningActivity : Program (Execution × Flow) := do
  let (signal, listener) ← Program.request (.signal execution.listener)
  let execution := { execution with listener := listener }
  match signal with
  | .run => execution.step
  | .cancel reason => return (execution, .finish (.cancelled reason))
  | .pause => execution.pause

/-- What a paused execution does in a turn.  One whose entry has vanished counts
as cancelled. -/
def pausedActivity : Program (Execution × Flow) := do
  match ← Program.request (.listen execution.listener) with
  | .silence (.cancel reason) => return (execution, .finish (.cancelled reason))
  | .silence _ => return (execution, .finish (.cancelled none))
  | .news signal listener =>
    let execution := { execution with listener := listener }
    match signal with
    | .pause => return (execution, .goOn)
    | .cancel reason => return (execution, .finish (.cancelled reason))
    | .run => execution.resume

/-- What an execution does in a turn, up to its end if it comes to one. -/
def activity : Program (Execution × Flow) :=
  if execution.isPaused then execution.pausedActivity else execution.runningActivity

/-- What comes after a turn. -/
inductive Next where
  /-- The execution was not admitted. -/
  | refused (error : EngineError)
  /-- Another turn. -/
  | turn (execution : Execution)
  /-- The end, with the final record. -/
  | ended (record : ExecutionRecord)
deriving Inhabited

/-- The next turn. -/
def turn : Program Next := do
  match ← execution.activity with
  | (execution, .goOn) => return .turn execution
  | (execution, .finish ending) =>
    let record ← execution.finalize ending
    return .ended record

end Execution
end WorkflowEngine
