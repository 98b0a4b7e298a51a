import WorkflowEngine.Execution.Run
import WorkflowEngine.Workflow.Loading

/-!
# Starting executions

An execution starts once its workflow is found and valid, the registry admits
it and the store takes its record.  Until then a refusal leaves no trace.
-/

namespace WorkflowEngine

/-- A request to execute a workflow. -/
structure Call where
  executionId : String
  input : Object := []
  options : ExecutionOptions := {}
deriving Inhabited

/-- The number of executions that a workflow may have at a time. -/
def Environment.concurrencyLimit (environment : Environment) (workflow : Workflow) : Nat :=
  let fallback :=
    if workflow.policy.allowConcurrent then
      environment.settings.maxConcurrent.getD (4 * max environment.processors 1)
    else 1
  max (workflow.policy.maxConcurrent.getD fallback) 1

/-- The time that an execution may take: as its caller says, else its workflow,
else the settings. -/
def Environment.timeoutFor
    (environment : Environment)
    (workflow : Workflow)
    (options : ExecutionOptions) : Span :=
  (options.timeout.or (workflow.policy.executionTimeout.map Span.ofSeconds)).getD
    environment.settings.timeout

namespace Execution

/-- The context in which a workflow is executed. -/
def contextFor (environment : Environment) (workflow : Workflow) (call : Call) : Context :=
  { Context.create call.executionId workflow.id workflow.variables.entries call.input call.options
      (environment.timeoutFor workflow call.options) with
    semantics := environment.settings.semantics }

/-- Starts to execute a workflow. -/
def start (environment : Environment) (workflow : Workflow) (call : Call) : Program Next := do
  let clock ← Program.request .clock
  let context := contextFor environment workflow call
  match ← Program.request
      (.register call.executionId workflow.id context.tenantId
        (environment.concurrencyLimit workflow)) with
  | .error error => return .refused error
  | .ok listener =>
    let now ← Program.request .now
    let record :=
      ExecutionRecord.create context.tenantId call.executionId workflow.id workflow.steps.length now
    match ← Program.request (.create record) with
    | .error error =>
      Program.request (.unregister call.executionId)
      return .refused (.store error)
    | .ok () =>
      Program.request (.setStatus call.executionId .running)
      let execution : Execution :=
        { environment, workflow, context, listener
          schedule := .ofWorkflow workflow
          record := { record with status := .running }
          startedAt := clock }
      let execution ← execution.sync
      return .turn execution

/-- Starts to execute a workflow that the engine knows. -/
def startKnown (environment : Environment) (id : String) (call : Call) : Program Next := do
  match ← Program.request (.findWorkflow id) with
  | none => return .refused (.workflowNotFound id)
  | some workflow => start environment workflow call

/-- Starts to execute a workflow that comes with the request, if it is valid. -/
def startGiven (environment : Environment) (workflow : Workflow) (call : Call) : Program Next :=
  match workflow.validated with
  | .ok workflow => start environment workflow call
  | .error error => return .refused error

end Execution
end WorkflowEngine
