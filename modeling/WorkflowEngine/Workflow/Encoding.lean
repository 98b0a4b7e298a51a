import WorkflowEngine.Workflow.Decoding

/-!
# Writing workflows

The value that describes a workflow.  Fields that are absent or empty and would
be read as such are left out; the others are written even when they have their
default.
-/

namespace WorkflowEngine

/-- The first name of something in a table of names. -/
def nameIn {α : Type} [BEq α] (table : List (String × α)) (value : α) : String :=
  ((table.find? (fun entry => entry.2 == value)).map Prod.fst).getD ""

/-- The value of a choice. -/
def Json.ofChoice {α : Type} [BEq α] (table : List (String × α)) (value : α) : Json :=
  .text (nameIn table value)

/-- A field that is left out when absent. -/
def optionalField {α : Type}
    (name : String)
    (write : α → Json)
    (value : Option α) : List (String × Json) :=
  (value.map (fun value => (name, write value))).toList

/-- The value of an input mapping. -/
def InputMapping.toJson (mapping : InputMapping) : Json :=
  .ofEntries
    ([("source", .ofChoice InputSource.names mapping.source)] ++
      optionalField "path" .text mapping.path ++
      optionalField "default" id mapping.default ++
      [("required", .bool mapping.required)])

/-- The value of an output mapping. -/
def OutputMapping.toJson (mapping : OutputMapping) : Json :=
  .ofEntries
    ([("target", .ofChoice OutputTarget.names mapping.target)] ++
      optionalField "path" .text mapping.path)

/-- The value of a failure action. -/
def FailureAction.toJson (action : FailureAction) : Json := .ofChoice FailureAction.names action

/-- The value of what a step says about its failure. -/
def FailureHandling.toJson (handling : FailureHandling) : Json :=
  .ofEntries
    (optionalField "onError" FailureAction.toJson handling.action ++
      optionalField "maxRetries" .ofNat handling.maxRetries ++
      optionalField "retryDelayMs" .ofNat handling.retryDelayMs ++
      optionalField "fallbackStepId" .text handling.fallbackStep ++
      optionalField "continueStepId" .text handling.continueStep)

/-- The value of a condition. -/
def Condition.toJson (condition : Condition) : Json :=
  .ofEntries
    ([("field", .text condition.field),
      ("operator", .ofChoice Operator.names condition.operator),
      ("value", condition.value)] ++
      optionalField "logicalOperator" (.ofChoice Joiner.names) condition.joiner)

/-- A field that is left out when it is an empty object. -/
def mappingField {α : Type}
    (name : String)
    (write : α → Json)
    (entries : Dict α) : List (String × Json) :=
  if entries.isEmpty then [] else [(name, .object (Dict.mapValues write entries))]

/-- The value of a step. -/
def Step.toJson (step : Step) : Json :=
  .ofEntries
    ([("id", .text step.id)] ++
      optionalField "name" .text step.name ++
      [("type", .text step.type.name),
       ("executionOrder", .ofInt step.order),
       ("config", step.config)] ++
      mappingField "inputMapping" InputMapping.toJson step.inputs.entries ++
      mappingField "outputMapping" OutputMapping.toJson step.outputs.entries ++
      [("errorHandling", step.failure.toJson)] ++
      (if step.conditions.isEmpty then []
        else [("executionConditions", .array (step.conditions.map Condition.toJson))]) ++
      [("isCritical", .bool step.isCritical), ("isActive", .bool step.isActive)] ++
      optionalField "maxRetries" .ofNat step.maxRetries ++
      optionalField "retryDelayMs" .ofNat step.retryDelayMs)

/-- The value of a workflow's policy. -/
def WorkflowPolicy.toJson (policy : WorkflowPolicy) : Json :=
  .ofEntries
    (optionalField "executionTimeout" .ofNat policy.executionTimeout ++
      optionalField "maxConcurrentExecutions" .ofNat policy.maxConcurrent ++
      [("allowConcurrentExecution", .bool policy.allowConcurrent),
       ("onError", policy.onFailure.toJson)])

/-- The value of a workflow. -/
def Workflow.toJson (workflow : Workflow) : Json :=
  .ofEntries
    ([("id", .text workflow.id)] ++
      optionalField "name" .text workflow.name ++
      [("steps", .array (workflow.steps.map Step.toJson)),
       ("variables", .object workflow.variables.entries),
       ("config", workflow.policy.toJson)])

end WorkflowEngine
