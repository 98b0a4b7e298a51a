import WorkflowEngine.Action.Builtin
import WorkflowEngine.Proofs.ConditionGroups
import WorkflowEngine.Proofs.ConditionSemantics
import WorkflowEngine.Proofs.OperatorLaws
import WorkflowEngine.Proofs.WellFormed

/-!
# How the conditions of valid workflows fail

The checks of a workflow rule out every error of its conditions but one.  A condition may
match against something that is no text, and it fails on the data that have its field.
Conditions in front of a step are evaluated by the engine, those on which a step branches by
its handler; both kinds are checked.
-/

namespace WorkflowEngine

/-! ## Single conditions -/

theorem Json.matchesPattern_text
    {source : String}
    (compiles : Pattern.parse? source ≠ none)
    (actual : Json) :
    ∃ outcome, actual.matchesPattern (.text source) = .ok outcome := by
  obtain ⟨pattern, parsed⟩ := Option.ne_none_iff_exists'.mp compiles
  unfold matchesPattern
  dsimp only
  rw [parsed]
  dsimp only
  cases actual.matchText? with
  | none => exact ⟨_, rfl⟩
  | some content => exact ⟨_, rfl⟩

theorem Json.matchesPattern_of_ne_text
    {pattern : Json}
    (notText : ∀ source, pattern ≠ .text source)
    (actual : Json) :
    actual.matchesPattern pattern = .error (.patternNotText pattern) := by
  unfold matchesPattern
  split
  next source => exact (notText source rfl).elim
  next => rfl

namespace Condition

variable
  {data : Json}
  {condition : Condition}
  {conditions : List Condition}
  {semantics : Semantics}
  {error : ConditionError}

/-- A condition matches against something that is no text, and some data have its field. -/
structure IsStray (data : Json) (condition : Condition) : Prop where
  matching : condition.operator = .regexMatch
  notText : ∀ source, condition.value ≠ .text source
  present : ∃ actual, data.lookup (Text.trim condition.field) = some actual

/-- A well-formed condition has an answer on all data on which it does not go astray. -/
theorem IsWellFormed.exists_evaluate_of_not_isStray
    (wellFormed : condition.IsWellFormed)
    (kept : ¬condition.IsStray data) :
    ∃ outcome, condition.evaluate data = .ok outcome := by
  unfold evaluate
  cases found : data.lookup (Text.trim condition.field) with
  | none => exact ⟨_, Operator.evaluate_of_lookup_eq_none wellFormed.named found⟩
  | some actual =>
    rw [Operator.evaluate_of_lookup wellFormed.named found]
    by_cases matching : condition.operator = .regexMatch
    · by_cases text : ∃ source, condition.value = .text source
      · obtain ⟨source, written⟩ := text
        rw [matching, written]
        exact Json.matchesPattern_text (wellFormed.compiles source matching written) actual
      · exact (kept ⟨matching, not_exists.mp text, actual, found⟩).elim
    · cases compared : condition.operator.compare actual condition.value with
      | ok outcome => exact ⟨outcome, rfl⟩
      | error => exact (matching (Operator.eq_regexMatch_of_compare_eq_error compared)).elim

theorem IsStray.evaluate_eq
    (stray : condition.IsStray data)
    (wellFormed : condition.IsWellFormed) :
    condition.evaluate data = .error (.patternNotText condition.value) := by
  obtain ⟨matching, notText, actual, found⟩ := stray
  unfold evaluate
  rw [Operator.evaluate_of_lookup wellFormed.named found, matching]
  exact Json.matchesPattern_of_ne_text notText actual

/-- A well-formed condition fails exactly where it goes astray. -/
theorem IsWellFormed.evaluate_eq_error_iff (wellFormed : condition.IsWellFormed) :
    condition.evaluate data = .error error ↔
      condition.IsStray data ∧ error = .patternNotText condition.value := by
  constructor
  · intro failed
    by_cases stray : condition.IsStray data
    · exact ⟨stray, Except.error.inj (failed.symm.trans (stray.evaluate_eq wellFormed))⟩
    · obtain ⟨outcome, evaluated⟩ := wellFormed.exists_evaluate_of_not_isStray stray
      cases failed.symm.trans evaluated
  · rintro ⟨stray, rfl⟩
    exact stray.evaluate_eq wellFormed

/-! ## Lists of conditions -/

/-- An error of some conditions is that of one of them that goes astray. -/
def FailsAstray (data : Json) (conditions : List Condition) (error : ConditionError) : Prop :=
  ∃ condition ∈ conditions, condition.IsStray data ∧ error = .patternNotText condition.value

/-- Some conditions fail on some data only where one of them goes astray.  From left to right
all of them are evaluated, and then they do fail. -/
structure FailOnlyAstray (data : Json) (conditions : List Condition) : Prop where
  astray : ∀ semantics error, evaluateAll semantics conditions data = .error error →
    FailsAstray data conditions error
  leftFold_iff : (∃ error, evaluateAll .leftFold conditions data = .error error) ↔
    ∃ condition ∈ conditions, condition.IsStray data

theorem exists_mem_of_foldLeft_eq_error
    {result : Bool}
    {joiner : Joiner}
    (failed : foldLeft data result joiner conditions = .error error) :
    ∃ condition ∈ conditions, condition.evaluate data = .error error := by
  induction conditions generalizing result joiner with
  | nil => cases failed
  | cons first rest inductionHypothesis =>
    rw [List.exists_mem_cons_iff]
    unfold foldLeft at failed
    split at failed
    next other broken =>
      cases failed
      exact .inl broken
    next => exact .inr (inductionHypothesis failed)

/-- From left to right no condition is left out. -/
theorem exists_outcome_of_mem
    {result value : Bool}
    {joiner : Joiner}
    (folded : foldLeft data result joiner conditions = .ok value) :
    ∀ condition ∈ conditions, ∃ outcome, condition.evaluate data = .ok outcome := by
  induction conditions generalizing result joiner with
  | nil => simp
  | cons first rest inductionHypothesis =>
    obtain ⟨outcome, evaluated, folded⟩ := exists_outcome_of_foldLeft folded
    exact List.forall_mem_cons.mpr ⟨⟨outcome, evaluated⟩, inductionHypothesis folded⟩

/-- What belongs to a group is one of the conditions. -/
theorem mem_of_mem_groups
    {group : List Condition}
    (grouped : group ∈ groups conditions)
    (member : condition ∈ group) :
    condition ∈ conditions := by
  have whole : (groups conditions).flatten = conditions := List.flatten_splitBy _ _
  rw [← whole]
  exact List.mem_flatten_of_mem grouped member

theorem exists_mem_of_breaksWith (breaks : BreaksWith data error conditions) :
    ∃ condition ∈ conditions, condition.evaluate data = .error error := by
  obtain ⟨group, ⟨before, behind, parts, -⟩, earlier, condition, rest, rfl, -, failed⟩ := breaks
  have grouped : earlier ++ condition :: rest ∈ groups conditions := by
    rw [parts]
    exact List.mem_append_right _ List.mem_cons_self
  exact ⟨condition, mem_of_mem_groups grouped (by simp), failed⟩

/-- Under either semantics an error is that of one of the conditions. -/
theorem exists_mem_of_evaluateAll_eq_error
    (failed : evaluateAll semantics conditions data = .error error) :
    ∃ condition ∈ conditions, condition.evaluate data = .error error := by
  cases semantics with
  | leftFold => exact exists_mem_of_foldLeft_eq_error failed
  | precedence => exact exists_mem_of_breaksWith (evaluateAll_eq_error_iff.mp failed)

section

variable (wellFormed : ∀ condition ∈ conditions, condition.IsWellFormed)
include wellFormed

theorem failsAstray_of_evaluateAll
    (failed : evaluateAll semantics conditions data = .error error) :
    FailsAstray data conditions error := by
  obtain ⟨condition, member, failed⟩ := exists_mem_of_evaluateAll_eq_error failed
  exact ⟨condition, member, (wellFormed condition member).evaluate_eq_error_iff.mp failed⟩

/-- From left to right every condition that goes astray does harm. -/
theorem exists_evaluateAll_leftFold_eq_error_iff :
    (∃ error, evaluateAll .leftFold conditions data = .error error) ↔
      ∃ condition ∈ conditions, condition.IsStray data := by
  constructor
  · rintro ⟨error, failed⟩
    obtain ⟨condition, member, stray, -⟩ := failsAstray_of_evaluateAll wellFormed failed
    exact ⟨condition, member, stray⟩
  · rintro ⟨condition, member, stray⟩
    cases answered : evaluateAll .leftFold conditions data with
    | error error => exact ⟨error, rfl⟩
    | ok value =>
      obtain ⟨outcome, evaluated⟩ := exists_outcome_of_mem answered condition member
      cases evaluated.symm.trans (stray.evaluate_eq (wellFormed condition member))

theorem failOnlyAstray (data : Json) : FailOnlyAstray data conditions where
  astray := fun _ _ failed => failsAstray_of_evaluateAll wellFormed failed
  leftFold_iff := exists_evaluateAll_leftFold_eq_error_iff wellFormed

end

end Condition

/-! ## Steps that branch -/

/-- The conditions in the configuration of a step, if they can be read. -/
def Step.branchConditions (step : Step) : List Condition :=
  ((step.config.field? "conditions").bind (Condition.readList? ∘ Tree.ofJson)).getD []

namespace Builtin

variable {invocation : Invocation} {conditions : List Condition}

/-- The data on which a step branches. -/
def branchData (invocation : Invocation) : Json :=
  .object (Dict.merge invocation.context.data invocation.input)

/-- What the handler makes of the answer of some conditions. -/
def branchAnswer : Except ConditionError Bool → Except ActionError StepResult
  | .ok holds => .ok (StepResult.succeed.withOutput "result" (.bool holds))
  | .error error => .error (.condition error)

/-- Conditions that can be read are evaluated. -/
theorem evaluateBranch_eq
    {value : Json}
    (found : invocation.step.config.field? "conditions" = some value)
    (read : Condition.readList? (.ofJson value) = some conditions) :
    evaluateBranch invocation =
      branchAnswer (Condition.evaluateAll invocation.context.semantics conditions
        (branchData invocation)) := by
  -- A null would count as absent, but no list of conditions is read from it.
  have there : value ≠ .null := by
    rintro rfl
    cases read
  have given : configField? invocation.step.config "conditions" Condition.readList? =
      .ok (some conditions) := by
    rw [configField?_of_given found there, read]
  unfold evaluateBranch branchData
  rw [given]
  dsimp only [Option.getD_some]
  cases Condition.evaluateAll invocation.context.semantics conditions _ <;> rfl

end Builtin

namespace Workflow

variable {workflow : Workflow} {step : Step}

/-- The conditions of a valid workflow fail in one way only, be they those in front of a step
or those on which it branches: one of them matches against something that is no text, and the
data have its field.  For any input and context the handler of a step that branches answers
what its conditions say, or gives their error. -/
theorem conditions_fail_only_astray
    {σ : Type}
    (valid : workflow.isValid = true)
    (member : step ∈ workflow.steps) :
    (∀ data, Condition.FailOnlyAstray data step.conditions) ∧
    (step.type = .condition →
      (∀ data, Condition.FailOnlyAstray data step.branchConditions) ∧
      ∀ (invocation : Invocation) (state : σ), invocation.step.config = step.config →
        Builtin.conditionHandler.perform invocation state =
          (some (Builtin.atOnce (Builtin.branchAnswer
            (Condition.evaluateAll invocation.context.semantics step.branchConditions
              (Builtin.branchData invocation)))), state)) := by
  have sound := (isValid_iff_isWellFormed.mp valid).steps step member
  refine ⟨Condition.failOnlyAstray sound.conditions, fun branching => ?_⟩
  obtain ⟨value, conditions, found, read, wellFormed⟩ := sound.branches branching
  have listed : step.branchConditions = conditions := by
    unfold Step.branchConditions
    rw [found, Option.bind_some, Function.comp_apply, read, Option.getD_some]
  rw [listed]
  refine ⟨Condition.failOnlyAstray wellFormed, fun invocation state configured => ?_⟩
  rw [← Builtin.evaluateBranch_eq (configured ▸ found) read]
  rfl

end Workflow

/-- A match of the status against a number. -/
def strayCondition : Condition where
  field := " status "
  operator := .regexMatch
  value := .ofInt 5
  joiner := none

/-- A step that runs and branches on a match against a number. -/
def strayStep : Step where
  id := "check"
  type := .condition
  config := .object
    [("conditions", .array
      [.ofEntries
        [("field", .text " status "), ("operator", .text "regex_match"), ("value", .ofInt 5)]])]
  conditions := [strayCondition]

theorem Workflow.conditions_fail_only_astray_status :
    Workflow.isValid { id := "orders", steps := [strayStep] } = true ∧
    Condition.evaluateAll .precedence strayStep.conditions (.object [("status", .text "open")]) =
      .error (.patternNotText (.ofInt 5)) ∧
    Condition.FailsAstray (.object [("status", .text "open")]) strayStep.conditions
      (.patternNotText (.ofInt 5)) ∧
    strayStep.branchConditions = [strayCondition] ∧
    ¬∃ error, Condition.evaluateAll .leftFold strayStep.branchConditions (.object []) =
      .error error := by
  have valid : Workflow.isValid { id := "orders", steps := [strayStep] } = true := by rfl
  have failed : Condition.evaluateAll .precedence strayStep.conditions
      (.object [("status", .text "open")]) = .error (.patternNotText (.ofInt 5)) := by rfl
  have listed : strayStep.branchConditions = [strayCondition] := by rfl
  obtain ⟨before, branching⟩ :=
    @Workflow.conditions_fail_only_astray _ _ Unit valid (List.mem_singleton.mpr rfl)
  refine ⟨valid, failed, (before _).astray _ _ failed, listed, ?_⟩
  rw [((branching rfl).1 _).leftFold_iff, listed]
  rintro ⟨condition, member, -, -, actual, found⟩
  obtain rfl := List.mem_singleton.mp member
  cases found.symm.trans (show _ = none by rfl)

end WorkflowEngine
