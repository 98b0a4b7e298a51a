import WorkflowEngine.Tree.Reading
import WorkflowEngine.Workflow.Basic

/-!
# Reading workflows

Workflows are read from document trees of either format.  Every field but the
identifying ones has a default, and entries without a meaning are passed over.
-/

namespace WorkflowEngine

open WorkflowEngine.Tree (Fields)

/-- The names of the input sources. -/
def InputSource.names : List (String × InputSource) :=
  [("workflow_variable", .workflowVariable),
   ("previous_step", .previousStep),
   ("static_value", .staticValue),
   ("user_input", .userInput)]

/-- Reads an input mapping. -/
def InputMapping.read? (tree : Tree) : Option InputMapping := do
  let fields ← tree.fields? ["source", "path", "default", "required"]
  let source ← fields.required "source" (Tree.choiceOf? InputSource.names)
  let path ← fields.optional "path" Tree.text?
  let default ← fields.optional "default" Tree.json?
  let required ← fields.defaulted "required" false Tree.bool?
  some { source, path, default, required }

/-- The names of the output targets. -/
def OutputTarget.names : List (String × OutputTarget) :=
  [("workflow_variable", .workflowVariable),
   ("next_step", .nextStep),
   ("workflow_output", .workflowOutput)]

/-- Reads an output mapping. -/
def OutputMapping.read? (tree : Tree) : Option OutputMapping := do
  let fields ← tree.fields? ["target", "path"]
  let target ← fields.required "target" (Tree.choiceOf? OutputTarget.names)
  let path ← fields.optional "path" Tree.text?
  some { target, path }

/-- The names of the failure actions. -/
def FailureAction.names : List (String × FailureAction) :=
  [("stop", .stop),
   ("continue", .continue),
   ("retry", .retry),
   ("skip", .skip),
   ("goto_step", .goto),
   ("goto", .goto)]

/-- Reads a failure action. -/
def FailureAction.read? : Tree → Option FailureAction := Tree.choiceOf? FailureAction.names

/-- Reads what a step says about its failure. -/
def FailureHandling.read? (tree : Tree) : Option FailureHandling := do
  let fields ← tree.fields?
    ["onError", "maxRetries", "retryDelayMs", "fallbackStepId", "continueStepId"]
  let action ← fields.optional "onError" FailureAction.read?
  let maxRetries ← fields.optional "maxRetries" Tree.nat32?
  let retryDelayMs ← fields.optional "retryDelayMs" Tree.nat64?
  let fallbackStep ← fields.optional "fallbackStepId" Tree.text?
  let continueStep ← fields.optional "continueStepId" Tree.text?
  some { action, maxRetries, retryDelayMs, fallbackStep, continueStep }

/-- The names of the operators. -/
def Operator.names : List (String × Operator) :=
  [("equals", .equals),
   ("not_equals", .notEquals),
   ("greater_than", .greaterThan),
   ("less_than", .lessThan),
   ("greater_equal", .greaterEqual),
   ("less_equal", .lessEqual),
   ("contains", .contains),
   ("not_contains", .notContains),
   ("in", .isIn),
   ("not_in", .notIn),
   ("is_null", .isNull),
   ("is_not_null", .isNotNull),
   ("regex_match", .regexMatch)]

/-- Reads an operator. -/
def Operator.read? : Tree → Option Operator := Tree.choiceOf? Operator.names

/-- The names of the joiners; the first of each is the one that is written. -/
def Joiner.names : List (String × Joiner) :=
  [("AND", .and), ("and", .and), ("&&", .and), ("OR", .or), ("or", .or), ("||", .or)]

/-- Reads a joiner. -/
def Joiner.read? : Tree → Option Joiner := Tree.choiceOf? Joiner.names

/-- Reads a condition. -/
def Condition.read? (tree : Tree) : Option Condition := do
  let fields ← tree.fields? ["field", "operator", "value", "logicalOperator"]
  let field ← fields.required "field" Tree.text?
  let operator ← fields.required "operator" Operator.read?
  let value ← fields.defaulted "value" .null Tree.json?
  let joiner ← fields.optional "logicalOperator" Joiner.read?
  some { field, operator, value, joiner }

/-- Reads a list of conditions. -/
def Condition.readList? : Tree → Option (List Condition) := Tree.listOf? Condition.read?

/-- Reads a step. -/
def Step.read? (tree : Tree) : Option Step := do
  let fields ← tree.fields?
    ["id", "name", "type", "executionOrder", "config", "inputMapping", "outputMapping",
     "errorHandling", "executionConditions", "isCritical", "isActive", "maxRetries",
     "retryDelayMs"]
  let id ← fields.required "id" Tree.text?
  let name ← fields.optional "name" Tree.text?
  let type ← fields.required "type" Tree.text?
  let order ← fields.defaulted "executionOrder" 0 Tree.int64?
  let config ← fields.defaulted "config" (.object []) Tree.json?
  let inputs ← fields.defaulted "inputMapping" [] (Tree.dictOf? InputMapping.read?)
  let outputs ← fields.defaulted "outputMapping" [] (Tree.dictOf? OutputMapping.read?)
  let failure ← fields.defaulted "errorHandling" {} FailureHandling.read?
  let conditions ← fields.defaulted "executionConditions" [] Condition.readList?
  let isCritical ← fields.defaulted "isCritical" false Tree.bool?
  let isActive ← fields.defaulted "isActive" true Tree.bool?
  let maxRetries ← fields.optional "maxRetries" Tree.nat32?
  let retryDelayMs ← fields.optional "retryDelayMs" Tree.nat64?
  some
    { id, name, type := StepType.ofName type, order, config, inputs := .ofList inputs,
      outputs := .ofList outputs, failure, conditions, isCritical, isActive, maxRetries,
      retryDelayMs }

/-- Reads the policy of a workflow. -/
def WorkflowPolicy.read? (tree : Tree) : Option WorkflowPolicy := do
  let fields ← tree.fields?
    ["executionTimeout", "maxConcurrentExecutions", "allowConcurrentExecution", "onError"]
  let executionTimeout ← fields.optional "executionTimeout" Tree.nat64?
  let maxConcurrent ← fields.optional "maxConcurrentExecutions" Tree.nat64?
  let allowConcurrent ← fields.defaulted "allowConcurrentExecution" true Tree.bool?
  let onFailure ← fields.defaulted "onError" .stop FailureAction.read?
  some { executionTimeout, maxConcurrent, allowConcurrent, onFailure }

/-- Reads a workflow. -/
def Workflow.read? (tree : Tree) : Option Workflow := do
  let fields ← tree.fields? ["id", "name", "steps", "variables", "config"]
  let id ← fields.required "id" Tree.text?
  let name ← fields.optional "name" Tree.text?
  let steps ← fields.required "steps" (Tree.listOf? Step.read?)
  let «variables» ← fields.defaulted "variables" [] Tree.object?
  let policy ← fields.defaulted "config" {} WorkflowPolicy.read?
  some { id, name, steps, «variables» := .ofList «variables», policy }

end WorkflowEngine
