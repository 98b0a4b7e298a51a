import WorkflowEngine.Condition
import WorkflowEngine.Time.Span
import WorkflowEngine.Tree.Reading

/-!
# Execution contexts

The state that the steps of one execution share: variables, the data collected
so far, the caller's input, and the settings that handlers may see.
-/

namespace WorkflowEngine

/-- What a caller asks for in one execution. -/
structure ExecutionOptions where
  /-- Nothing outside the engine may change. -/
  dryRun : Bool := false
  /-- Takes precedence over the timeouts of the workflow and the engine. -/
  timeout : Option Span := none
  userId : Option String := none
  roles : List String := []
  /-- The partition for records and events. -/
  tenantId : Option String := none
  debug : Bool := false
deriving Repr, DecidableEq, Inhabited

/-- Reads what a caller asks for, apart from a timeout. -/
def ExecutionOptions.read? (tree : Tree) : Option ExecutionOptions := do
  let fields ← tree.fields? ["dryRun", "userId", "roles", "tenantId", "debug"]
  let dryRun ← fields.defaulted "dryRun" false Tree.bool?
  let userId ← fields.optional "userId" Tree.text?
  let roles ← fields.defaulted "roles" [] (Tree.listOf? Tree.text?)
  let tenantId ← fields.optional "tenantId" Tree.text?
  let debug ← fields.defaulted "debug" false Tree.bool?
  some { dryRun, userId, roles, tenantId, debug }

/-- The tenant of executions that name none. -/
def defaultTenant : String := "default"

/-- The context of one execution. -/
structure Context where
  executionId : String
  workflowId : String
  tenantId : String
  «variables» : Object
  /-- The results of steps that later steps see. -/
  executionData : Object
  /-- The caller's input, which never changes. -/
  inputData : Object
  timeout : Span
  dryRun : Bool
  debug : Bool
  semantics : Semantics
  userId : Option String
  roles : List String
deriving Inhabited

namespace Context

/-- The context of a new execution.  The caller's input overrides variables of
the same name. -/
def create
    (executionId workflowId : String)
    («variables» input : Object)
    (options : ExecutionOptions)
    (timeout : Span) : Context where
  executionId := executionId
  workflowId := workflowId
  tenantId := options.tenantId.getD defaultTenant
  «variables» := Dict.merge «variables» input
  executionData := []
  inputData := input
  timeout := timeout
  dryRun := options.dryRun
  debug := options.debug
  semantics := .precedence
  userId := options.userId
  roles := options.roles

/-- What conditions see: the variables, overlaid by the execution data. -/
def data (context : Context) : Object := Dict.merge context.variables context.executionData

end Context
end WorkflowEngine
