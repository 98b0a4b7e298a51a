import WorkflowEngine.Condition
import WorkflowEngine.Workflow.StepType

/-!
# Steps

A step is a single unit of work: the handler it goes to, the conditions under
which it runs, where its input comes from, where its result goes, and what
happens when it fails.
-/

namespace WorkflowEngine

/-- Where an input field is read from. -/
inductive InputSource where
  | workflowVariable
  | previousStep
  | staticValue
  | userInput
deriving Repr, DecidableEq, Inhabited

/-- How one input field is found. -/
structure InputMapping where
  source : InputSource
  /-- The path into the source; the name of the field when absent. -/
  path : Option String := none
  /-- The value when the path leads nowhere. -/
  default : Option Json := none
  required : Bool := false
deriving Repr, Inhabited

/-- Where an output field is written. -/
inductive OutputTarget where
  | workflowVariable
  | nextStep
  | workflowOutput
deriving Repr, DecidableEq, Inhabited

/-- How one field of a result is stored. -/
structure OutputMapping where
  target : OutputTarget
  /-- The path in the target; the name of the field when absent. -/
  path : Option String := none
deriving Repr, Inhabited

/-- The reaction to a failed step. -/
inductive FailureAction where
  | stop
  | continue
  | retry
  | skip
  | goto
deriving Repr, DecidableEq, Inhabited

/-- What a step says about its own failure. -/
structure FailureHandling where
  /-- The action; that of the workflow when absent. -/
  action : Option FailureAction := none
  maxRetries : Option Nat := none
  retryDelayMs : Option Nat := none
  fallbackStep : Option String := none
  continueStep : Option String := none
deriving Repr, DecidableEq, Inhabited

/-- A step of a workflow. -/
structure Step where
  id : String
  name : Option String := none
  type : StepType
  /-- The sort key of the step; equal keys keep the order of declaration. -/
  order : Int := 0
  /-- What the handler is told besides its input. -/
  config : Json := .object []
  inputs : SortedDict InputMapping := .empty
  outputs : SortedDict OutputMapping := .empty
  failure : FailureHandling := {}
  conditions : List Condition := []
  isCritical : Bool := false
  isActive : Bool := true
  maxRetries : Option Nat := none
  retryDelayMs : Option Nat := none
deriving Repr, Inhabited

/-- A field by which a step refers to other steps. -/
inductive ReferenceField where
  | fallback
  | continueWith
  | onTrue
  | onFalse
  | subStep
deriving Repr, DecidableEq, Inhabited

/-- The written name of a reference field. -/
def ReferenceField.name : ReferenceField → String
  | .fallback => "fallbackStepId"
  | .continueWith => "continueStepId"
  | .onTrue => "trueStepId"
  | .onFalse => "falseStepId"
  | .subStep => "stepIds"

namespace Step

/-- A text in the configuration of a step. -/
def configText? (step : Step) (key : String) : Option String :=
  (step.config.field? key).bind Json.text?

/-- The step to go to when the condition of a step holds. -/
def onTrue (step : Step) : Option String := step.configText? "trueStepId"

/-- The step to go to when the condition of a step fails. -/
def onFalse (step : Step) : Option String := step.configText? "falseStepId"

/-- The sub-steps that a step lists; items that are no texts do not count. -/
def subSteps (step : Step) : List String :=
  match (step.config.field? "stepIds").bind Json.items? with
  | some items => items.filterMap Json.text?
  | none => []

/-- Every step that a step refers to, with the field that does. -/
def references (step : Step) : List (ReferenceField × String) :=
  (step.failure.fallbackStep.map (ReferenceField.fallback, ·)).toList ++
  (step.failure.continueStep.map (ReferenceField.continueWith, ·)).toList ++
  (step.onTrue.map (ReferenceField.onTrue, ·)).toList ++
  (step.onFalse.map (ReferenceField.onFalse, ·)).toList ++
  step.subSteps.map (ReferenceField.subStep, ·)

/-- The name of a step, or its identifier when it has none. -/
def label (step : Step) : String := step.name.getD step.id

/-- An active step without any configuration. -/
def create (id : String) (type : StepType) (order : Int) : Step :=
  { id := Text.trim id, type := type, order := order }

end Step
end WorkflowEngine
