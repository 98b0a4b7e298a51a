import WorkflowEngine.Workflow.Decoding

/-!
# Validation of workflows

Everything that can be known to be wrong about a workflow before it runs.  All
problems are found, in the order of declaration, not only the first.
-/

namespace WorkflowEngine

/-- A problem of a workflow. -/
inductive Problem where
  | emptyWorkflow
  | emptyWorkflowId
  | duplicateStepId (id : String)
  | emptyStepId
  | invalidReference (step : String) (field : ReferenceField) (reference : String)
  | missingFallback (step : String)
  | invalidStepConfig (step message : String)
  | emptyConditionField (step : String)
  | invalidPattern (step pattern : String)
  | parallelSelfReference (step : String)
  /-- A reference to a step that runs only inside a parallel step. -/
  | ownedStepTarget (step : String) (field : ReferenceField) (reference owner : String)
deriving Repr, DecidableEq, Inhabited

/-- The message of a problem. -/
def Problem.message : Problem → String
  | .emptyWorkflow => "Workflow has no steps"
  | .emptyWorkflowId => "Workflow has an empty ID"
  | .duplicateStepId id => "Duplicate step ID: '" ++ id ++ "'"
  | .emptyStepId => "Step has empty or whitespace-only ID"
  | .invalidReference step field reference =>
    "Step '" ++ step ++ "' references unknown step '" ++ reference ++ "' in " ++ field.name
  | .missingFallback step =>
    "Step '" ++ step ++ "' uses onError goto_step but has no fallbackStepId"
  | .invalidStepConfig step message => "Step '" ++ step ++ "' has invalid config: " ++ message
  | .emptyConditionField step => "Step '" ++ step ++ "' has a condition with an empty field path"
  | .invalidPattern step pattern =>
    "Step '" ++ step ++ "' has an invalid regex pattern '" ++ pattern ++ "'"
  | .parallelSelfReference step => "Parallel step '" ++ step ++ "' lists itself as a sub-step"
  | .ownedStepTarget step field reference owner =>
    "Step '" ++ step ++ "' routes to '" ++ reference ++ "' in " ++ field.name ++
      ", which only runs inside parallel step '" ++ owner ++ "'"

namespace Condition

/-- The pattern of a condition that matches against a text. -/
def pattern? (condition : Condition) : Option String :=
  if condition.operator == .regexMatch then condition.value.text? else none

/-- What is wrong with a condition of a step. -/
def problems (step : String) (condition : Condition) : List Problem :=
  (if Text.isBlankText condition.field then [.emptyConditionField step] else []) ++
  (match condition.pattern? with
    | some pattern =>
      if (Pattern.parse? pattern).isNone then [.invalidPattern step pattern] else []
    | none => [])

end Condition

namespace Step

/-- What is wrong with the configuration of a step that branches. -/
def branchProblems (step : Step) : List Problem :=
  match step.config.field? "conditions" with
  | some value =>
    match Condition.readList? (Tree.ofJson value) with
    | some conditions => conditions.flatMap (Condition.problems step.id)
    | none => [.invalidStepConfig step.id "conditions: not a list of conditions"]
  | none => [.invalidStepConfig step.id "condition step requires a 'conditions' list"]

/-- What is wrong with the configuration of a step that runs others. -/
def parallelProblems (step : Step) : List Problem :=
  (if step.subSteps.isEmpty then
    [.invalidStepConfig step.id "parallel step requires a non-empty 'stepIds' list"]
  else []) ++
  (if step.subSteps.contains step.id then [.parallelSelfReference step.id] else [])

/-- What is wrong with a step by itself. -/
def problems (step : Step) : List Problem :=
  if Text.isBlankText step.id then [.emptyStepId]
  else
    (if step.failure.action == some .goto && step.failure.fallbackStep.isNone then
      [.missingFallback step.id]
    else []) ++
    step.conditions.flatMap (Condition.problems step.id) ++
    (match step.type with
      | .condition => step.branchProblems
      | .parallel => step.parallelProblems
      | _ => []) ++
    (if step.config.isObject || step.config.isNull then []
    else [.invalidStepConfig step.id "config must be an object"])

end Step

namespace Workflow

/-- The identifiers of steps that are not blank. -/
def stepIds (workflow : Workflow) : List String :=
  (workflow.steps.map Step.id).filter (fun id => !Text.isBlankText id)

/-- The identifiers that occur again behind their first occurrence, given those
that were met already. -/
def repeated (seen : List String) : List String → List String
  | [] => []
  | id :: rest =>
    if seen.contains id then id :: repeated seen rest else repeated (id :: seen) rest

/-- Every sub-step with the step that lists it. -/
def ownerships (workflow : Workflow) : List (String × String) :=
  workflow.steps.flatMap (fun step => step.subSteps.map (·, step.id))

/-- The step that lists a sub-step; of several the last. -/
def owner? (workflow : Workflow) (id : String) : Option String :=
  workflow.ownerships.reverse.lookup id

/-- What is wrong with one reference of a step. -/
def referenceProblems
    (workflow : Workflow)
    (step : Step)
    (reference : ReferenceField × String) : List Problem :=
  if !workflow.stepIds.contains reference.2 then
    [.invalidReference step.id reference.1 reference.2]
  else if reference.1 == .subStep then []
  else
    match workflow.owner? reference.2 with
    | some owner => [.ownedStepTarget step.id reference.1 reference.2 owner]
    | none => []

/-- Everything that is wrong with a workflow. -/
def problems (workflow : Workflow) : List Problem :=
  (if Text.isBlankText workflow.id then [.emptyWorkflowId] else []) ++
  (if workflow.steps.isEmpty then [.emptyWorkflow]
  else
    (repeated [] workflow.stepIds).map .duplicateStepId ++
    workflow.steps.flatMap (fun step =>
      step.problems ++ step.references.flatMap (workflow.referenceProblems step)))

/-- Whether nothing is wrong with a workflow. -/
def isValid (workflow : Workflow) : Bool := workflow.problems.isEmpty

end Workflow
end WorkflowEngine
