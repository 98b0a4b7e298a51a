import WorkflowEngine.Workflow.Step

/-!
# Workflows

A workflow is a list of steps in declaration order together with its initial
variables and the policy of its executions.
-/

namespace WorkflowEngine

/-- The policy of a workflow's executions. -/
structure WorkflowPolicy where
  /-- Seconds after which an execution is ended. -/
  executionTimeout : Option Nat := none
  maxConcurrent : Option Nat := none
  allowConcurrent : Bool := true
  /-- The action for steps that name none. -/
  onFailure : FailureAction := .stop
deriving Repr, DecidableEq, Inhabited

/-- A workflow. -/
structure Workflow where
  id : String
  name : Option String := none
  steps : List Step := []
  «variables» : SortedDict Json := .empty
  policy : WorkflowPolicy := {}
deriving Repr, Inhabited

/-- Inserts a step behind all steps whose order is not larger. -/
def insertByOrder (step : Step) : List Step → List Step
  | [] => [step]
  | other :: rest =>
    if step.order < other.order then step :: other :: rest
    else other :: insertByOrder step rest

/-- Sorts steps by their order; equal orders keep the given sequence. -/
def sortByOrder (steps : List Step) : List Step :=
  steps.foldl (fun sorted step => insertByOrder step sorted) []

namespace Workflow

/-- The steps in the order of execution. -/
def orderedSteps (workflow : Workflow) : List Step := sortByOrder workflow.steps

/-- The first step with an identifier. -/
def step? (workflow : Workflow) (id : String) : Option Step :=
  workflow.steps.find? (fun step => step.id == id)

/-- Adds a step at the end, unless its identifier is taken. -/
def addStep (workflow : Workflow) (step : Step) : Except String Workflow :=
  if workflow.steps.any (fun other => other.id == step.id) then
    .error ("Step '" ++ step.id ++ "' already exists")
  else .ok { workflow with steps := workflow.steps ++ [step] }

/-- Sets an initial variable. -/
def withVariable (workflow : Workflow) (name : String) (value : Json) : Workflow :=
  { workflow with «variables» := workflow.variables.insert name value }

end Workflow
end WorkflowEngine
