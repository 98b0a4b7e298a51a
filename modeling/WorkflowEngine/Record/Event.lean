import WorkflowEngine.Record.Document

/-!
# Events

What an engine makes known about its executions: that one has paused, resumed
or ended.
-/

namespace WorkflowEngine

/-- What happened to an execution. -/
inductive EventKind where
  | completed
  | failed
  | paused
  | resumed
  | cancelled
deriving Repr, DecidableEq, Inhabited

namespace EventKind

/-- The name of a kind. -/
def name : EventKind → String
  | .completed => "workflow.execution.completed"
  | .failed => "workflow.execution.failed"
  | .paused => "workflow.execution.paused"
  | .resumed => "workflow.execution.resumed"
  | .cancelled => "workflow.execution.cancelled"

/-- The kinds by name. -/
def names : List (String × EventKind) :=
  [.completed, .failed, .paused, .resumed, .cancelled].map (fun kind => (kind.name, kind))

/-- The kind that announces a last status.  A timeout counts as a failure. -/
def ofTerminal? : ExecutionStatus → Option EventKind
  | .completed => some .completed
  | .failed | .timeout => some .failed
  | .cancelled => some .cancelled
  | .pending | .running | .paused => none

/-- Whether a kind announces the end of an execution. -/
def isTerminal : EventKind → Bool
  | .completed | .failed | .cancelled => true
  | .paused | .resumed => false

/-- Reads a kind. -/
def read? : Tree → Option EventKind := Tree.choiceOf? names

@[simp] theorem ofTerminal?_isSome (status : ExecutionStatus) :
    (ofTerminal? status).isSome = status.isTerminal := by
  cases status <;> rfl

end EventKind

/-- An announcement about an execution. -/
structure Event where
  kind : EventKind
  tenantId : String
  workflowId : String
  executionId : String
  status : ExecutionStatus
  durationMs : Option Nat
  metrics : Object
deriving Inhabited

/-- The announcement of what a record says at the moment. -/
def Event.ofRecord (kind : EventKind) (record : ExecutionRecord) : Event where
  kind := kind
  tenantId := record.tenantId
  workflowId := record.workflowId
  executionId := record.executionId
  status := record.status
  durationMs := record.durationMs
  metrics := record.metrics

/-- The value of an announcement. -/
def Event.toJson (event : Event) : Json :=
  .ofEntries
    ([("kind", .text event.kind.name),
      ("tenantId", .text event.tenantId),
      ("workflowId", .text event.workflowId),
      ("executionId", .text event.executionId),
      ("status", .text event.status.name),
      ("metrics", .object event.metrics)] ++
      optionalField "durationMs" .ofNat event.durationMs)

end WorkflowEngine
