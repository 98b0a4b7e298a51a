import WorkflowEngine.Record.Status
import WorkflowEngine.Store.Basic
import WorkflowEngine.Time.Span
import WorkflowEngine.Workflow.Validation

/-!
# Engine errors

Why a request to an engine is refused, and why an execution does not complete.
Every error has a code for machines and a message for people.
-/

namespace WorkflowEngine

/-- A request about the course of an execution. -/
inductive LifecycleAction where
  | pause
  | resume
  | cancel
deriving Repr, DecidableEq, Inhabited

/-- The name of a request. -/
def LifecycleAction.name : LifecycleAction → String
  | .pause => "pause"
  | .resume => "resume"
  | .cancel => "cancel"

/-- An error of an engine. -/
inductive EngineError where
  | configuration (problems : List Problem)
  | conditionEvaluation (error : ConditionError)
  | stepExecution (stepId message : String)
  | timeout (limit : Span)
  | cancelled (reason : Option String)
  | workflowNotFound (id : String)
  | executionNotFound (id : String)
  | invalidTransition (id : String) (action : LifecycleAction) (status : ExecutionStatus)
  | concurrencyLimit (workflowId : String) (active limit : Nat)
  | duplicateExecution (id : String)
  | parse (detail : String)
  | store (error : StoreError)
  | unreadable (detail : String)
deriving Inhabited

namespace EngineError

/-- The code of an error. -/
def code : EngineError → String
  | .configuration _ => "CONFIGURATION_ERROR"
  | .conditionEvaluation _ => "CONDITION_EVALUATION_ERROR"
  | .stepExecution .. => "STEP_EXECUTION_ERROR"
  | .timeout _ => "TIMEOUT_ERROR"
  | .cancelled _ => "CANCELLATION_ERROR"
  | .workflowNotFound _ => "WORKFLOW_NOT_FOUND"
  | .executionNotFound _ => "EXECUTION_NOT_FOUND"
  | .invalidTransition .. => "INVALID_TRANSITION"
  | .concurrencyLimit .. => "CONCURRENCY_LIMIT"
  | .duplicateExecution _ => "DUPLICATE_EXECUTION"
  | .parse _ => "PARSE_ERROR"
  | .store _ => "STORE_ERROR"
  | .unreadable _ => "IO_ERROR"

/-- The message of an error. -/
def message : EngineError → String
  | .configuration problems =>
    "invalid workflow configuration: " ++ "; ".intercalate (problems.map Problem.message)
  | .conditionEvaluation error => "condition evaluation failed: " ++ error.message
  | .stepExecution stepId message => "step '" ++ stepId ++ "' failed: " ++ message
  | .timeout limit => "execution timed out after " ++ limit.text
  | .cancelled none => "execution cancelled"
  | .cancelled (some reason) => "execution cancelled: " ++ reason
  | .workflowNotFound id => "workflow not found: " ++ id
  | .executionNotFound id => "execution not found: " ++ id
  | .invalidTransition id action status =>
    "cannot " ++ action.name ++ " execution '" ++ id ++ "' while " ++ status.name
  | .concurrencyLimit workflowId active limit =>
    "workflow '" ++ workflowId ++ "' already has " ++ toString active ++
      " active execution(s) (limit " ++ toString limit ++ ")"
  | .duplicateExecution id => "execution '" ++ id ++ "' is already running"
  | .parse detail => "failed to parse workflow: " ++ detail
  | .store error => error.message
  | .unreadable detail => "I/O error: " ++ detail

/-- Whether an error ends an execution whatever its policies say. -/
def isFatal : EngineError → Bool
  | .configuration _ | .timeout _ | .cancelled _ => true
  | _ => false

end EngineError
end WorkflowEngine
