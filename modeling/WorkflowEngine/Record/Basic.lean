import WorkflowEngine.Action.Basic
import WorkflowEngine.Record.Status
import WorkflowEngine.Time.Timestamp

/-!
# Execution records

The lasting account of an execution: one record for the whole, brought up to
date while the execution goes on, and one for every attempt at a step, never
changed once written.
-/

namespace WorkflowEngine

/-- The account of one execution. -/
structure ExecutionRecord where
  tenantId : String
  executionId : String
  workflowId : String
  status : ExecutionStatus := .pending
  currentStep : Option String := none
  totalSteps : Nat
  completedSteps : Nat := 0
  failedSteps : Nat := 0
  skippedSteps : Nat := 0
  progress : Float := 0.0
  startedAt : Timestamp
  updatedAt : Timestamp
  completedAt : Option Timestamp := none
  durationMs : Option Nat := none
  errorMessage : Option String := none
  errorCode : Option String := none
  failedStep : Option String := none
  /-- The data collected by the steps. -/
  output : Object := []
  /-- Counts of attempts and retries, and what they used. -/
  metrics : Object := []
deriving Inhabited

namespace ExecutionRecord

/-- The record of an execution that has just been admitted. -/
def create
    (tenantId executionId workflowId : String)
    (totalSteps : Nat)
    (now : Timestamp) : ExecutionRecord where
  tenantId := tenantId
  executionId := executionId
  workflowId := workflowId
  totalSteps := totalSteps
  startedAt := now
  updatedAt := now

/-- The number of steps that have come out one way or the other. -/
def accounted (record : ExecutionRecord) : Nat :=
  record.completedSteps + record.failedSteps + record.skippedSteps

/-- Closes a record with its last status and its end time. -/
def finish (record : ExecutionRecord) (status : ExecutionStatus) (now : Timestamp) :
    ExecutionRecord :=
  { record with
    status := status
    updatedAt := now
    completedAt := some now
    durationMs := some (now.millisSince record.startedAt) }

/-- Notes why an execution did not complete. -/
def setError
    (record : ExecutionRecord)
    (code message : String)
    (failedStep : Option String) : ExecutionRecord :=
  { record with
    errorCode := some code
    errorMessage := some message
    failedStep := failedStep }

@[simp] theorem accounted_create
    (tenantId executionId workflowId : String) (totalSteps : Nat) (now : Timestamp) :
    (create tenantId executionId workflowId totalSteps now).accounted = 0 := rfl

@[simp] theorem accounted_finish
    (record : ExecutionRecord) (status : ExecutionStatus) (now : Timestamp) :
    (record.finish status now).accounted = record.accounted := rfl

@[simp] theorem accounted_setError
    (record : ExecutionRecord) (code message : String) (failedStep : Option String) :
    (record.setError code message failedStep).accounted = record.accounted := rfl

end ExecutionRecord

/-- The account of one attempt at a step. -/
structure StepRecord where
  tenantId : String
  executionId : String
  stepId : String
  stepType : StepType
  status : StepStatus
  /-- Zero for the first attempt. -/
  retryCount : Nat
  startedAt : Timestamp
  completedAt : Timestamp
  durationMs : Nat
  input : Object := []
  output : Object := []
  errorMessage : Option String := none
  raised : Bool := false
  resourceUsage : Option ResourceUsage := none
deriving Inhabited

end WorkflowEngine
