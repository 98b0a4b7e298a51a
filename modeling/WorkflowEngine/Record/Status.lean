/-!
# Statuses of executions

The stages of an execution, from its admission to its end.
-/

namespace WorkflowEngine

/-- The status of an execution. -/
inductive ExecutionStatus where
  | pending
  | running
  | paused
  | completed
  | failed
  | cancelled
  | timeout
deriving Repr, DecidableEq, Inhabited

namespace ExecutionStatus

/-- The name of a status. -/
def name : ExecutionStatus → String
  | .pending => "pending"
  | .running => "running"
  | .paused => "paused"
  | .completed => "completed"
  | .failed => "failed"
  | .cancelled => "cancelled"
  | .timeout => "timeout"

/-- The statuses by name. -/
def names : List (String × ExecutionStatus) :=
  [.pending, .running, .paused, .completed, .failed, .cancelled, .timeout].map
    (fun status => (status.name, status))

/-- Whether an execution has ended. -/
def isTerminal : ExecutionStatus → Bool
  | .pending | .running | .paused => false
  | .completed | .failed | .cancelled | .timeout => true

end ExecutionStatus

/-- The outcome of one attempt at a step. -/
inductive StepStatus where
  | completed
  | failed
deriving Repr, DecidableEq, Inhabited

/-- The statuses of attempts by name. -/
def StepStatus.names : List (String × StepStatus) :=
  [("completed", .completed), ("failed", .failed)]

end WorkflowEngine
