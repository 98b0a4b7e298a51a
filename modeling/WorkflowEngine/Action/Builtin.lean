import WorkflowEngine.Action.Rule
import WorkflowEngine.Action.Transform
import WorkflowEngine.Decimal.Layout

/-!
# Built-in handlers

The handlers that an engine starts with.  The types that act on other systems
have a stand-in that refuses every call.
-/

namespace WorkflowEngine
namespace Builtin

/-- A field of a configuration that is there and not null. -/
def configField?
    {α : Type}
    (config : Json)
    (key : String)
    (read : Tree → Option α) : Except ActionError (Option α) :=
  match (config.field? key).filter (fun value => !value.isNull) with
  | none => .ok none
  | some value =>
    match read (Tree.ofJson value) with
    | some value => .ok (some value)
    | none => .error (.invalidConfig (key ++ ": invalid value"))

section

variable {α : Type} {config : Json} {key : String} {read : Tree → Option α}

theorem configField?_of_absent
    (absent : config.field? key = none ∨ config.field? key = some .null) :
    configField? config key read = .ok none := by
  unfold configField?
  rcases absent with absent | absent <;> rw [absent] <;> rfl

theorem configField?_of_given
    {value : Json}
    (found : config.field? key = some value)
    (given : value ≠ .null) :
    configField? config key read =
      match read (.ofJson value) with
      | some content => .ok (some content)
      | none => .error (.invalidConfig (key ++ ": invalid value")) := by
  unfold configField?
  rw [found]
  cases value with
  | null => exact (given rfl).elim
  | _ => rfl

/-- A field is absent, or it is given. -/
theorem absent_or_given (config : Json) (key : String) :
    (config.field? key = none ∨ config.field? key = some .null) ∨
      ∃ value, config.field? key = some value ∧ value ≠ .null := by
  cases config.field? key with
  | none => exact .inl (.inl rfl)
  | some value =>
    by_cases null : value = .null
    · exact .inl (.inr (congrArg some null))
    · exact .inr ⟨value, rfl, null⟩

end

/-- An answer that is given at once. -/
def atOnce (answer : Except ActionError StepResult) : Reply := ⟨.zero, answer⟩

/-- Evaluates the conditions of a step over its context and input. -/
def evaluateBranch (invocation : Invocation) : Except ActionError StepResult :=
  match configField? invocation.step.config "conditions" Condition.readList? with
  | .error error => .error error
  | .ok conditions =>
    let data := Dict.merge invocation.context.data invocation.input
    match
      Condition.evaluateAll invocation.context.semantics (conditions.getD []) (.object data)
    with
    | .error error => .error (.condition error)
    | .ok holds => .ok (StepResult.succeed.withOutput "result" (.bool holds))

/-- The length of a delay; `none` inside marks a length that no span has. -/
def delayOf (config : Json) : Except ActionError (Option Span) :=
  match configField? config "delayMs" Tree.nat64? with
  | .error error => .error error
  | .ok (some millis) => .ok (some (.ofMillis millis))
  | .ok none =>
    match configField? config "seconds" Tree.float? with
    | .error error => .error error
    | .ok none => .ok (some .zero)
    | .ok (some seconds) =>
      if seconds.isFinite && 0.0 ≤ seconds then .ok (Span.ofSecondsFloat? seconds)
      else
        .error (.invalidConfig
          ("invalid delay: " ++ String.ofList (Decimal.plainLayout.float seconds)))

/-- The result of a delay, with its milliseconds as a number of 64 bits. -/
def delayed (span : Span) : StepResult :=
  StepResult.succeed.withOutput "delayedMs" (.ofNat (span.millis % Nat.pow 2 64))

/-- Waits.  A delay whose length no span has breaks the handler down. -/
def wait (invocation : Invocation) : Option Reply :=
  match delayOf invocation.step.config with
  | .error error => some (atOnce (.error error))
  | .ok (some span) => some ⟨span, .ok (delayed span)⟩
  | .ok none => none

/-- Runs a pipeline over a part of the input. -/
def transformData (invocation : Invocation) : Except ActionError StepResult := do
  let config := invocation.step.config
  let source ←
    match ← configField? config "source" Tree.text? with
    | some source => .ok source
    | none => .error (.invalidConfig "source is required")
  let target ← configField? config "target" Tree.text?
  let transforms ← configField? config "transforms" (Tree.listOf? Transform.read?)
  let value ←
    match Object.lookup source invocation.input with
    | some value => .ok value
    | none => .error (.executionFailed ("source '" ++ source ++ "' not found"))
  let value ← Transform.applyAll (transforms.getD []) value
  .ok { success := true, data := Object.put (target.getD "result") value [] }

/-- Checks the input against rules.  Violations fail the step unless the
configuration says otherwise. -/
def validateData (invocation : Invocation) : Except ActionError StepResult := do
  let config := invocation.step.config
  let rules ← configField? config "rules" (Tree.listOf? Rule.read?)
  let failOnInvalid ← configField? config "failOnInvalid" Tree.bool?
  let violations ← Rule.violations (.object invocation.input) (rules.getD [])
  let valid := violations.isEmpty
  let result :=
    if valid || !failOnInvalid.getD true then StepResult.succeed
    else .fail ("validation failed: " ++ "; ".intercalate violations)
  .ok ((result.withOutput "valid" (.bool valid)).withOutput "violations" (.ofTexts violations))

variable {σ : Type}

/-- A handler without a state that answers at once. -/
def pureHandler
    (description : String)
    (supportsDryRun : Bool)
    (answer : Invocation → Except ActionError StepResult) : Handler σ where
  description := description
  supportsDryRun := supportsDryRun
  perform := fun invocation state => (some (atOnce (answer invocation)), state)

/-- The handler for conditions. -/
def conditionHandler : Handler σ :=
  pureHandler "Evaluates conditions and selects a branch" true evaluateBranch

/-- The handler for delays. -/
def delayHandler : Handler σ where
  description := "Waits for a fixed duration"
  supportsDryRun := true
  perform := fun invocation state => (wait invocation, state)

/-- The handler for pipelines. -/
def transformHandler : Handler σ :=
  pureHandler "Filters, sorts and aggregates data" true transformData

/-- The handler for validations. -/
def validationHandler : Handler σ :=
  pureHandler "Validates step input against field rules" true validateData

/-- The stand-in for a type without a backend. -/
def unavailableHandler (type : StepType) : Handler σ :=
  pureHandler "No backend registered" false (fun _ => .error (.unavailable type))

/-- All built-in handlers. -/
def actions : Actions σ :=
  [(.condition, conditionHandler),
   (.delay, delayHandler),
   (.dataTransform, transformHandler),
   (.dataValidation, validationHandler)] ++
  StepType.business.map (fun type => (type, unavailableHandler type))

end Builtin
end WorkflowEngine
