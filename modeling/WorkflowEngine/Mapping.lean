import WorkflowEngine.Context
import WorkflowEngine.Workflow.Step

/-!
# Mapping data between steps

A step's input is built from its context, and its result is written back, as
the mappings of the step say.  A step without input mappings sees everything,
and the result of a step without output mappings is merged as a whole.
-/

namespace WorkflowEngine

/-- A required input that was not found. -/
structure MissingInput where
  field : String
  path : String
deriving Repr, DecidableEq, Inhabited

/-- The message for a missing input. -/
def MissingInput.message (missing : MissingInput) : String :=
  "required input '" ++ missing.field ++ "' not found at '" ++ missing.path ++ "'"

namespace InputMapping

/-- The path of an input field in its source. -/
def pathFor (mapping : InputMapping) (field : String) : String := mapping.path.getD field

/-- What the source of a mapping holds for a field. -/
def find? (mapping : InputMapping) (context : Context) (field : String) : Option Json :=
  match mapping.source with
  | .workflowVariable => Object.lookup (mapping.pathFor field) context.variables
  | .previousStep => Object.lookup (mapping.pathFor field) context.executionData
  | .userInput => Object.lookup (mapping.pathFor field) context.inputData
  | .staticValue => none

/-- The value of a field: what its source holds, or the default. -/
def value? (mapping : InputMapping) (context : Context) (field : String) : Option Json :=
  (mapping.find? context field).or mapping.default

end InputMapping

/-- The path to which an output field is written. -/
def OutputMapping.pathFor (mapping : OutputMapping) (field : String) : String :=
  mapping.path.getD field

/-- Adds the fields of some mappings to an input. -/
def resolveFields (context : Context) : Dict InputMapping → Object → Except MissingInput Object
  | [], input => .ok input
  | (field, mapping) :: rest, input =>
    match mapping.value? context field with
    | some value => resolveFields context rest (Object.put field value input)
    | none =>
      if mapping.required then .error ⟨field, mapping.pathFor field⟩
      else resolveFields context rest input

/-- The input of a step. -/
def Step.resolveInput (step : Step) (context : Context) : Except MissingInput Object :=
  if step.inputs.entries.isEmpty then .ok context.data
  else resolveFields context step.inputs.entries []

/-- Writes one field of a result into a context. -/
def OutputMapping.apply
    (mapping : OutputMapping)
    (field : String)
    (value : Json)
    (context : Context) : Context :=
  match mapping.target with
  | .workflowVariable =>
    { context with «variables» := Object.put (mapping.pathFor field) value context.variables }
  | .nextStep | .workflowOutput =>
    { context with executionData := Object.put (mapping.pathFor field) value context.executionData }

/-- Writes the fields of some mappings into a context; a field that the result
lacks is passed over. -/
def applyFields (result : Object) : Dict OutputMapping → Context → Context
  | [], context => context
  | (field, mapping) :: rest, context =>
    match Object.lookup field result with
    | some value => applyFields result rest (mapping.apply field value context)
    | none => applyFields result rest context

/-- Stores the result of a step in a context. -/
def Step.applyOutput (step : Step) (result : Object) (context : Context) : Context :=
  if step.outputs.entries.isEmpty then
    { context with executionData := Dict.merge context.executionData result }
  else applyFields result step.outputs.entries context

end WorkflowEngine
