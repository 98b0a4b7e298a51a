import WorkflowEngine.Execution.FanOut
import WorkflowEngine.Execution.Reaction
import WorkflowEngine.Execution.Retry

/-!
# Executions

The state of one execution while it goes on, the ways in which it can end, and
how its record is kept up to date.
-/

namespace WorkflowEngine

/-- An execution under way. -/
structure Execution where
  environment : Environment
  workflow : Workflow
  schedule : Schedule
  context : Context
  record : ExecutionRecord
  listener : Listener
  /-- When the time limit began. -/
  startedAt : Span
  /-- It waits to be resumed or cancelled. -/
  isPaused : Bool := false
  monitor : Monitor := {}
  attempts : Nat := 0
  retries : Nat := 0
deriving Inhabited

/-- Why a step failed for good. -/
inductive FailureCause where
  | step (message : String)
  | condition (error : ConditionError)
deriving Inhabited

/-- How an execution ends. -/
inductive Ending where
  | completed
  | failed (stepId : String) (cause : FailureCause)
  | timedOut (stepId : Option String)
  | cancelled (reason : Option String)
deriving Inhabited

namespace Ending

/-- The last status of an execution. -/
def status : Ending → ExecutionStatus
  | .completed => .completed
  | .failed .. => .failed
  | .timedOut _ => .timeout
  | .cancelled _ => .cancelled

/-- The error with which an execution ends, given its time limit. -/
def error? (limit : Span) : Ending → Option EngineError
  | .completed => none
  | .failed stepId (.step message) => some (.stepExecution stepId message)
  | .failed _ (.condition error) => some (.conditionEvaluation error)
  | .timedOut _ => some (.timeout limit)
  | .cancelled reason => some (.cancelled reason)

/-- The step at which an execution ends. -/
def step? : Ending → Option String
  | .failed stepId _ => some stepId
  | .timedOut stepId => stepId
  | .completed | .cancelled _ => none

@[simp] theorem status_isTerminal (ending : Ending) : ending.status.isTerminal = true := by
  cases ending <;> rfl

end Ending

namespace Execution

variable (execution : Execution)

/-- The time that has passed at a reading of the clock. -/
def elapsed (clock : Span) : Span := ⟨clock.nanos - execution.startedAt.nanos⟩

/-- The time that is left at a reading of the clock, if there is any. -/
def remaining? (clock : Span) : Option Span :=
  let left := execution.context.timeout.nanos - (execution.elapsed clock).nanos
  if left = 0 then none else some ⟨left⟩

/-- Whether the time is up at a reading of the clock. -/
def isTimedOut (clock : Span) : Bool :=
  execution.context.timeout.nanos < (execution.elapsed clock).nanos

/-- Notes the outcome of a step. -/
def note (id : String) (outcome : StepOutcome) : Execution :=
  { execution with schedule := execution.schedule.record id outcome }

/-- Moves on to the next step. -/
def advance : Execution := { execution with schedule := execution.schedule.advance }

/-- Goes on at a position. -/
def jumpTo (position : Nat) : Execution :=
  { execution with schedule := execution.schedule.jumpTo position }

/-- Goes on at a step, or at the next one if that is unknown or owned by a
parallel step. -/
def route (target : String) : Execution :=
  match execution.schedule.position? target with
  | some position =>
    if execution.schedule.isOwned target then execution.advance else execution.jumpTo position
  | none => execution.advance

/-- The record with the tallies of the schedule. -/
def tallied (now : Timestamp) : ExecutionRecord :=
  let counts := execution.schedule.counts
  { execution.record with
    completedSteps := counts.completed
    failedSteps := counts.failed
    skippedSteps := counts.skipped
    progress := execution.schedule.progress
    updatedAt := now }

/-- Brings the record up to date and stores it.  That the store may refuse it
changes nothing. -/
def sync : Program Execution := do
  let now ← Program.request .now
  let record := execution.tallied now
  let _ ← Program.request (.update record)
  return { execution with record := record }

/-- Makes an event known. -/
def announce (kind : EventKind) : Program Unit :=
  Program.request (.announce (.ofRecord kind execution.record))

/-- Makes the end known. -/
def announceEnd (status : ExecutionStatus) : Program Unit :=
  match EventKind.ofTerminal? status with
  | some kind => execution.announce kind
  | none => return ()

/-- What an attempt used: as its result says, or else by a sample. -/
def usageOf (result : StepResult) : Program (Option ResourceUsage × Monitor) :=
  match result.resourceUsage with
  | some usage => return (some usage, execution.monitor)
  | none => do
    let reading ← Program.request .reading
    return execution.monitor.sample reading

/-- The record of an attempt. -/
def attemptRecord
    (step : Step)
    (input : Object)
    (startedAt completedAt : Timestamp)
    (retryCount : Nat)
    (outcome : Outcome)
    (usage : Option ResourceUsage) : StepRecord where
  tenantId := execution.context.tenantId
  executionId := execution.context.executionId
  stepId := step.id
  stepType := step.type
  status := if outcome.succeeded then .completed else .failed
  retryCount := retryCount
  startedAt := startedAt
  completedAt := completedAt
  durationMs := outcome.duration.millis % Nat.pow 2 64
  input := input
  output := outcome.result.data
  errorMessage := if outcome.succeeded then none else some outcome.result.errorMessage
  raised := outcome.raised
  resourceUsage := usage

/-- Adds an attempt to the trail. -/
def write
    (step : Step)
    (input : Object)
    (startedAt : Timestamp)
    (retryCount : Nat)
    (outcome : Outcome) : Program Execution := do
  let (usage, monitor) ← execution.usageOf outcome.result
  let now ← Program.request .now
  let _ ← Program.request
    (.append (execution.attemptRecord step input startedAt now retryCount outcome usage))
  return { execution with monitor := monitor, attempts := execution.attempts + 1 }

/-- Adds an attempt that began just now and never reached a handler. -/
def writeNow (step : Step) (outcome : Outcome) : Program Execution := do
  let now ← Program.request .now
  execution.write step [] now 0 outcome

/-- The counts that a final record carries. -/
def metrics : Object :=
  let counts := Dict.merge execution.record.metrics
    [("attempts", .ofNat execution.attempts), ("retries", .ofNat execution.retries)]
  Dict.merge counts
    [("averageCpu", .ofFloat execution.monitor.averageCpu.toFloat),
     ("peakMemoryMb", .ofNat execution.monitor.peakMemoryMb)]

/-- The record at an ending, before its tallies. -/
def closingRecord (ending : Ending) (now : Timestamp) : ExecutionRecord :=
  let record :=
    { execution.record with
      output := execution.context.executionData
      metrics := execution.metrics }
  let record :=
    match ending.error? execution.context.timeout with
    | some error => record.setError error.code error.message ending.step?
    | none => record
  record.finish ending.status now

/-- The execution with every step accounted for, unless it was cancelled. -/
def settled (ending : Ending) : Execution :=
  if ending.status = .cancelled then execution
  else { execution with schedule := execution.schedule.finish }

/-- Ends an execution: it leaves the registry, its record is closed and stored,
and the end is made known. -/
def finalize (ending : Ending) : Program ExecutionRecord := do
  Program.request (.unregister execution.context.executionId)
  let now ← Program.request .now
  let execution := execution.settled ending
  let execution := { execution with record := execution.closingRecord ending now }
  let execution ← execution.sync
  execution.announceEnd ending.status
  return execution.record

end Execution
end WorkflowEngine
