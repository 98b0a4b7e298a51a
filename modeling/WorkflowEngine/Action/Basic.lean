import WorkflowEngine.Context
import WorkflowEngine.Text.Quoted
import WorkflowEngine.Tree.Reading
import WorkflowEngine.Workflow.Encoding

/-!
# Actions

A handler performs steps of one type.  Whatever comes of it, a result, an error
or the lack of a handler, is brought to one form, the outcome of an attempt.
-/

namespace WorkflowEngine

/-- Why a handler gave no result. -/
inductive ActionError where
  | executionFailed (message : String)
  | invalidConfig (message : String)
  | unavailable (type : StepType)
  | condition (error : ConditionError)
deriving Repr, Inhabited

/-- The message of an error. -/
def ActionError.message : ActionError → String
  | .executionFailed message => "action failed: " ++ message
  | .invalidConfig message => "invalid step configuration: " ++ message
  | .unavailable type => "no handler available for step type '" ++ type.name ++ "'"
  | .condition error => error.message

/-- What an attempt used of the machine. -/
structure ResourceUsage where
  cpuUsage : Float32
  memoryMb : Nat
deriving Repr, Inhabited

/-- Reads a resource usage. -/
def ResourceUsage.read? (tree : Tree) : Option ResourceUsage := do
  let fields ← tree.fields? ["cpuUsage", "memoryMb"]
  let cpuUsage ← fields.required "cpuUsage" Tree.float?
  let memoryMb ← fields.required "memoryMb" Tree.nat64?
  some { cpuUsage := cpuUsage.toFloat32, memoryMb }

/-- What a handler reports about one attempt. -/
structure StepResult where
  success : Bool
  data : Object := []
  error : Option String := none
  /-- The step to go to after a success. -/
  nextStep : Option String := none
  /-- Ends the execution early. -/
  skipRemaining : Bool := false
  /-- The wait before the next retry. -/
  retryAfterMs : Option Nat := none
  resourceUsage : Option ResourceUsage := none
deriving Repr, Inhabited

namespace StepResult

/-- A success without data. -/
def succeed : StepResult := { success := true }

/-- A failure with a message. -/
def fail (error : String) : StepResult := { success := false, error := some error }

/-- Adds a field to the data. -/
def withOutput (result : StepResult) (key : String) (value : Json) : StepResult :=
  { result with data := Dict.insert key value result.data }

/-- The message of a failure, also when the handler gave none. -/
def errorMessage (result : StepResult) : String := result.error.getD "step reported failure"

@[simp] theorem errorMessage_fail (error : String) : (fail error).errorMessage = error := rfl

/-- Reads a result. -/
def read? (tree : Tree) : Option StepResult := do
  let fields ← tree.fields?
    ["success", "data", "error", "nextStepId", "skipRemainingSteps", "retryAfterMs",
     "resourceUsage"]
  let success ← fields.required "success" Tree.bool?
  let data ← fields.defaulted "data" [] Tree.object?
  let error ← fields.optional "error" Tree.text?
  let nextStep ← fields.optional "nextStepId" Tree.text?
  let skipRemaining ← fields.defaulted "skipRemainingSteps" false Tree.bool?
  let retryAfterMs ← fields.optional "retryAfterMs" Tree.nat64?
  let resourceUsage ← fields.optional "resourceUsage" ResourceUsage.read?
  some { success, data, error, nextStep, skipRemaining, retryAfterMs, resourceUsage }

end StepResult

/-- The value of a resource usage. -/
def ResourceUsage.toJson (usage : ResourceUsage) : Json :=
  .ofEntries
    [("cpuUsage", .ofFloat usage.cpuUsage.toFloat), ("memoryMb", .ofNat usage.memoryMb)]

/-- The value of a result. -/
def StepResult.toJson (result : StepResult) : Json :=
  .ofEntries
    ([("success", .bool result.success), ("data", .object result.data)] ++
      optionalField "error" .text result.error ++
      optionalField "nextStepId" .text result.nextStep ++
      [("skipRemainingSteps", .bool result.skipRemaining)] ++
      optionalField "retryAfterMs" .ofNat result.retryAfterMs ++
      optionalField "resourceUsage" ResourceUsage.toJson result.resourceUsage)

/-- The outcome of one attempt at a step. -/
structure Outcome where
  result : StepResult
  /-- There was an error or no handler, rather than a result. -/
  raised : Bool
  /-- How long the attempt took. -/
  duration : Span
deriving Repr, Inhabited

namespace Outcome

/-- Whether the attempt succeeded. -/
def succeeded (outcome : Outcome) : Bool := outcome.result.success

/-- A failure that took no time. -/
def failed (message : String) (raised : Bool) : Outcome := ⟨.fail message, raised, .zero⟩

@[simp] theorem succeeded_failed (message : String) (raised : Bool) :
    (failed message raised).succeeded = false := rfl

end Outcome

/-- What a handler is called with. -/
structure Invocation where
  step : Step
  input : Object
  context : Context
deriving Inhabited

/-- What a handler answers, after a delay. -/
structure Reply where
  delay : Span
  answer : Except ActionError StepResult
deriving Inhabited

/-- The outcome that a reply amounts to. -/
def Reply.outcome (reply : Reply) : Outcome :=
  match reply.answer with
  | .ok result => ⟨result, false, reply.delay⟩
  | .error error => ⟨.fail error.message, true, reply.delay⟩

/-- A handler, which may keep something in a state that all handlers share.  A
handler that gives no reply has broken down, and the execution with it. -/
structure Handler (σ : Type) where
  description : String
  /-- The handler itself avoids effects in a dry run. -/
  supportsDryRun : Bool
  perform : Invocation → σ → Option Reply × σ

/-- The handlers by the type of step that they perform. -/
abbrev Actions (σ : Type) := List (StepType × Handler σ)

namespace Actions

variable {σ : Type}

/-- The handler for a type. -/
def find? (actions : Actions σ) (type : StepType) : Option (Handler σ) := actions.lookup type

/-- Sets the handler for a type. -/
def register (actions : Actions σ) (type : StepType) (handler : Handler σ) : Actions σ :=
  actions.filter (fun entry => entry.1 != type) ++ [(type, handler)]

/-- The names of the types that have a handler, in order. -/
def names (actions : Actions σ) : List String :=
  Dict.keys (Dict.ofList (actions.map (fun entry => (entry.1.name, ()))))

/-- A listing of the handlers. -/
def listing (actions : Actions σ) : String :=
  "ActionRegistry \x7b handlers: [" ++ ", ".intercalate (actions.names.map Text.quoted) ++
    "] \x7d"

end Actions

/-- The outcome of a step whose type has no handler. -/
def Outcome.unavailable (type : StepType) : Outcome :=
  .failed (ActionError.unavailable type).message true

/-- The outcome of a step in a dry run whose handler is not called. -/
def Outcome.simulated (step : Step) (input : Object) : Outcome :=
  { result :=
      ((StepResult.succeed.withOutput "dryRun" (.bool true)).withOutput "stepType" (.text step.type.name)).withOutput
        "inputKeys" (.ofTexts (Dict.keys input))
    raised := false
    duration := .zero }

end WorkflowEngine
