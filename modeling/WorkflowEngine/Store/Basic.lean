import WorkflowEngine.Record.Basic

/-!
# Stores

A store keeps the records of executions under their tenant and identifier.
This module holds what all stores have in common: the operations asked of them,
the answers that they give, and the reasons for which they refuse.
-/

namespace WorkflowEngine

/-- Why a store refuses an operation. -/
inductive StoreError where
  | unreachable (detail : String)
  | malformed (detail : String)
  | alreadyExists (tenantId executionId : String)
  | notFound (tenantId executionId : String)
  | invalidKey (key : String)
deriving Repr, DecidableEq, Inhabited

/-- The message of an error. -/
def StoreError.message : StoreError → String
  | .unreachable detail => "storage I/O error: " ++ detail
  | .malformed detail => "failed to encode execution document: " ++ detail
  | .alreadyExists tenantId executionId =>
    "execution '" ++ executionId ++ "' already exists for tenant '" ++ tenantId ++ "'"
  | .notFound tenantId executionId =>
    "execution '" ++ executionId ++ "' not found for tenant '" ++ tenantId ++ "'"
  | .invalidKey key => "invalid storage key '" ++ key ++ "'"

/-- What a store keeps an execution under. -/
structure StoreKey where
  tenantId : String
  executionId : String
deriving Repr, DecidableEq, Inhabited

/-- The key of an execution. -/
def ExecutionRecord.key (record : ExecutionRecord) : StoreKey :=
  ⟨record.tenantId, record.executionId⟩

/-- The key of the execution to which an attempt belongs. -/
def StepRecord.key (record : StepRecord) : StoreKey := ⟨record.tenantId, record.executionId⟩

end WorkflowEngine
