import WorkflowEngine.Workflow.Loading

/-!
# Well-formed workflows

What makes a workflow fit to run, said of its steps and not of the checks.  The checks
accept the well-formed workflows and no others.
-/

namespace WorkflowEngine

theorem Json.text?_eq_some_iff {value : Json} {content : String} :
    value.text? = some content ↔ value = .text content := by
  cases value <;> simp [text?]

theorem Json.items?_eq_some_iff {value : Json} {items : List Json} :
    value.items? = some items ↔ value = .array items := by
  cases value <;> simp [items?]

/-! ## Conditions -/

namespace Condition

variable {condition : Condition}

/-- A condition that can be evaluated on some data: it names a field, and what it matches
against is a pattern. -/
structure IsWellFormed (condition : Condition) : Prop where
  named : Text.isBlankText condition.field = false
  compiles : ∀ pattern, condition.operator = .regexMatch → condition.value = .text pattern →
    Pattern.parse? pattern ≠ none

/-- Only a text is checked as a pattern, and only where it is matched against. -/
theorem pattern?_eq_some_iff {pattern : String} :
    condition.pattern? = some pattern ↔
      condition.operator = .regexMatch ∧ condition.value = .text pattern := by
  unfold pattern?
  split
  next matching =>
    rw [Json.text?_eq_some_iff]
    simp [eq_of_beq matching]
  next other =>
    have other : condition.operator ≠ .regexMatch := by simpa using other
    simp [other]

/-- The checks of a condition accept the well-formed ones. -/
theorem problems_eq_nil_iff (step : String) :
    problems step condition = [] ↔ condition.IsWellFormed := by
  unfold problems
  rw [List.append_eq_nil_iff]
  constructor
  · rintro ⟨named, readable⟩
    refine ⟨by simpa using named, fun pattern matching against => ?_⟩
    rw [pattern?_eq_some_iff.mpr ⟨matching, against⟩] at readable
    simpa using readable
  · rintro ⟨named, compiles⟩
    refine ⟨by simp [named], ?_⟩
    split
    next pattern found =>
      obtain ⟨matching, against⟩ := pattern?_eq_some_iff.mp found
      simpa using compiles pattern matching against
    next => rfl

end Condition

/-! ## Steps -/

namespace Step

variable {step : Step} {field : ReferenceField} {id key : String}

/-- A step refers to another one in some field.  In its configuration only texts count. -/
inductive RefersTo (step : Step) : ReferenceField → String → Prop
  | fallback
      {id : String}
      (named : step.failure.fallbackStep = some id) :
      RefersTo step .fallback id
  | continueWith
      {id : String}
      (named : step.failure.continueStep = some id) :
      RefersTo step .continueWith id
  | onTrue
      {id : String}
      (named : step.config.field? "trueStepId" = some (.text id)) :
      RefersTo step .onTrue id
  | onFalse
      {id : String}
      (named : step.config.field? "falseStepId" = some (.text id)) :
      RefersTo step .onFalse id
  | subStep
      {id : String}
      {items : List Json}
      (listed : step.config.field? "stepIds" = some (.array items))
      (member : .text id ∈ items) :
      RefersTo step .subStep id

/-- A step that is fit to run, apart from the other steps. -/
structure IsWellFormed (step : Step) : Prop where
  named : Text.isBlankText step.id = false
  complete : step.failure.action = some .goto → step.failure.fallbackStep ≠ none
  conditions : ∀ condition ∈ step.conditions, condition.IsWellFormed
  /-- A step that branches has a list of conditions to branch on. -/
  branches : step.type = .condition → ∃ value conditions,
    step.config.field? "conditions" = some value ∧
    Condition.readList? (.ofJson value) = some conditions ∧
    ∀ condition ∈ conditions, condition.IsWellFormed
  /-- A parallel step has sub-steps, and is none of them. -/
  fansOut : step.type = .parallel →
    (∃ id, step.RefersTo .subStep id) ∧ ¬ step.RefersTo .subStep step.id
  configured : step.config = .null ∨ ∃ entries, step.config = .object entries

theorem configText?_eq_some_iff :
    step.configText? key = some id ↔ step.config.field? key = some (.text id) := by
  simp [configText?, Option.bind_eq_some_iff, Json.text?_eq_some_iff]

/-- The sub-steps of a step are those that it refers to as such. -/
theorem mem_subSteps_iff : id ∈ step.subSteps ↔ step.RefersTo .subStep id := by
  unfold subSteps
  constructor
  · intro member
    split at member
    next items found =>
      obtain ⟨value, listed, array⟩ := Option.bind_eq_some_iff.mp found
      obtain ⟨item, member, text⟩ := List.mem_filterMap.mp member
      rw [Json.items?_eq_some_iff.mp array] at listed
      rw [Json.text?_eq_some_iff.mp text] at member
      exact .subStep listed member
    next => cases member
  · rintro ⟨⟩
    next items listed member =>
      have found : (step.config.field? "stepIds").bind Json.items? = some items := by
        rw [listed]
        rfl
      rw [found]
      exact List.mem_filterMap.mpr ⟨_, member, rfl⟩

/-- The references that are checked are all that there are. -/
theorem mem_references_iff : (field, id) ∈ step.references ↔ step.RefersTo field id := by
  simp only [references, onTrue, onFalse, List.mem_append, Option.mem_toList,
    Option.map_eq_some_iff, List.mem_map, Prod.mk.injEq, or_assoc, configText?_eq_some_iff,
    mem_subSteps_iff]
  constructor
  · rintro (⟨_, named, rfl, rfl⟩ | ⟨_, named, rfl, rfl⟩ | ⟨_, named, rfl, rfl⟩ |
      ⟨_, named, rfl, rfl⟩ | ⟨_, listed, rfl, rfl⟩)
    · exact .fallback named
    · exact .continueWith named
    · exact .onTrue named
    · exact .onFalse named
    · exact listed
  · intro refers
    cases refers with
    | fallback named => simp [named]
    | continueWith named => simp [named]
    | onTrue named => simp [named]
    | onFalse named => simp [named]
    | subStep listed member => simp [RefersTo.subStep listed member]

/-- The checks of a branch accept a list of well-formed conditions. -/
theorem branchProblems_eq_nil_iff :
    step.branchProblems = [] ↔ ∃ value conditions,
      step.config.field? "conditions" = some value ∧
      Condition.readList? (.ofJson value) = some conditions ∧
      ∀ condition ∈ conditions, condition.IsWellFormed := by
  unfold branchProblems
  split
  next value found =>
    split
    next conditions read =>
      simp [found, read, List.flatMap_eq_nil_iff, Condition.problems_eq_nil_iff]
    next unread => simp [found, unread]
  next missing => simp [missing]

/-- The checks of a fan-out accept sub-steps other than the step itself. -/
theorem parallelProblems_eq_nil_iff :
    step.parallelProblems = [] ↔
      (∃ id, step.RefersTo .subStep id) ∧ ¬ step.RefersTo .subStep step.id := by
  have listing : (∃ id, id ∈ step.subSteps) ↔ step.subSteps ≠ [] := by
    simp [List.eq_nil_iff_forall_not_mem]
  simp only [← mem_subSteps_iff, listing]
  simp [parallelProblems]

/-- The checks of a step accept the well-formed ones. -/
theorem problems_eq_nil_iff : step.problems = [] ↔ step.IsWellFormed := by
  have configured (problem : Problem) :
      (if step.config.isObject || step.config.isNull then [] else [problem]) = [] ↔
        step.config = .null ∨ ∃ entries, step.config = .object entries := by
    cases step.config <;> simp [Json.isObject, Json.isNull]
  unfold problems
  split
  next blank =>
    have unnamed : ¬ step.IsWellFormed := fun wellFormed => by
      rw [wellFormed.named] at blank
      cases blank
    simp [unnamed]
  next named =>
    simp only [List.append_eq_nil_iff, List.flatMap_eq_nil_iff, Condition.problems_eq_nil_iff,
      configured]
    constructor
    · rintro ⟨⟨⟨complete, conditions⟩, typed⟩, config⟩
      refine ⟨by simpa using named, by simpa using complete, conditions, fun condition => ?_,
        fun parallel => ?_, config⟩
      · rw [condition] at typed
        exact branchProblems_eq_nil_iff.mp typed
      · rw [parallel] at typed
        exact parallelProblems_eq_nil_iff.mp typed
    · rintro ⟨-, complete, conditions, branches, fansOut, config⟩
      refine ⟨⟨⟨by simpa using complete, conditions⟩, ?_⟩, config⟩
      split
      next condition => exact branchProblems_eq_nil_iff.mpr (branches condition)
      next parallel => exact parallelProblems_eq_nil_iff.mpr (fansOut parallel)
      next => rfl

end Step

/-! ## Workflows -/

namespace Workflow

variable {workflow : Workflow} {step : Step} {field : ReferenceField} {id : String}

/-- A workflow that is fit to run. -/
structure IsWellFormed (workflow : Workflow) : Prop where
  named : Text.isBlankText workflow.id = false
  nonempty : workflow.steps ≠ []
  steps : ∀ step ∈ workflow.steps, step.IsWellFormed
  distinct : (workflow.steps.map Step.id).Nodup
  /-- Whatever a step refers to is a step. -/
  known : ∀ step ∈ workflow.steps, ∀ {field id}, step.RefersTo field id →
    ∃ target ∈ workflow.steps, target.id = id
  /-- No step is to go on at a sub-step of any other. -/
  reachable : ∀ step ∈ workflow.steps, ∀ {field id}, step.RefersTo field id →
    field ≠ .subStep → ∀ lister ∈ workflow.steps, ¬ lister.RefersTo .subStep id

/-- Identifiers that never occur again are all different. -/
theorem repeated_eq_nil_iff {seen ids : List String} :
    repeated seen ids = [] ↔ ids.Nodup ∧ ∀ id ∈ ids, id ∉ seen := by
  induction ids generalizing seen with
  | nil => simp [repeated]
  | cons id rest inductionHypothesis =>
    unfold repeated
    split
    next met => simp_all
    next fresh =>
      rw [inductionHypothesis, List.nodup_cons, List.forall_mem_cons]
      have fresh : id ∉ seen := by simpa using fresh
      simp only [List.mem_cons, not_or]
      grind

/-- Where every step has an identifier, no identifier is left out. -/
theorem stepIds_eq (named : ∀ step ∈ workflow.steps, step.IsWellFormed) :
    workflow.stepIds = workflow.steps.map Step.id := by
  apply List.filter_eq_self.mpr
  rintro _ listed
  obtain ⟨step, member, rfl⟩ := List.mem_map.mp listed
  simp [(named step member).named]

/-- A step has no owner if none refers to it as a sub-step. -/
theorem owner?_eq_none_iff :
    workflow.owner? id = none ↔ ∀ lister ∈ workflow.steps, ¬ lister.RefersTo .subStep id := by
  simp only [owner?, ownerships, List.lookup_eq_none_iff, List.mem_reverse, List.mem_flatMap,
    List.mem_map, ← Step.mem_subSteps_iff]
  constructor
  · intro unowned lister member listed
    simpa using unowned (id, lister.id) ⟨lister, member, id, listed, rfl⟩
  · rintro unlisted _ ⟨lister, member, other, listed, rfl⟩
    rw [bne_iff_ne]
    rintro rfl
    exact unlisted lister member listed

/-- A reference is accepted if it leads to a step, which is a sub-step only where one
is asked for. -/
theorem referenceProblems_eq_nil_iff :
    workflow.referenceProblems step (field, id) = [] ↔
      id ∈ workflow.stepIds ∧
        (field ≠ .subStep → ∀ lister ∈ workflow.steps, ¬ lister.RefersTo .subStep id) := by
  rw [← owner?_eq_none_iff]
  unfold referenceProblems
  split
  next unknown =>
    have unknown : id ∉ workflow.stepIds := by simpa using unknown
    simp [unknown]
  next known =>
    have known : id ∈ workflow.stepIds := by simpa using known
    split
    next sub =>
      have sub : field = .subStep := by simpa using sub
      simp [known, sub]
    next route =>
      have route : field ≠ .subStep := by simpa using route
      cases workflow.owner? id with
      | none => simp [known]
      | some owner => simp [route]

/-- The checks find nothing if every single one of them finds nothing. -/
theorem problems_eq_nil_iff :
    workflow.problems = [] ↔
      Text.isBlankText workflow.id = false ∧ workflow.steps ≠ [] ∧
        repeated [] workflow.stepIds = [] ∧
        ∀ step ∈ workflow.steps, step.IsWellFormed ∧
          ∀ reference ∈ step.references, workflow.referenceProblems step reference = [] := by
  unfold problems
  rw [List.append_eq_nil_iff]
  by_cases empty : workflow.steps = []
  · simp [empty]
  · simp [empty, List.flatMap_eq_nil_iff, Step.problems_eq_nil_iff]

/-- The checks of a workflow find nothing exactly if it is well-formed. -/
theorem isValid_iff_isWellFormed : workflow.isValid = true ↔ workflow.IsWellFormed := by
  unfold isValid
  rw [List.isEmpty_iff, problems_eq_nil_iff]
  constructor
  · rintro ⟨named, nonempty, unrepeated, sound⟩
    have steps : ∀ step ∈ workflow.steps, step.IsWellFormed :=
      fun step member => (sound step member).1
    have checked {step field id}
        (member : step ∈ workflow.steps)
        (refers : step.RefersTo field id) :=
      referenceProblems_eq_nil_iff.mp
        ((sound step member).2 (field, id) (Step.mem_references_iff.mpr refers))
    rw [stepIds_eq steps] at unrepeated checked
    exact {
      named
      nonempty
      steps
      distinct := (repeated_eq_nil_iff.mp unrepeated).1
      known := fun step member _ _ refers => List.mem_map.mp (checked member refers).1
      reachable := fun step member _ _ refers => (checked member refers).2 }
  · rintro ⟨named, nonempty, steps, distinct, known, reachable⟩
    have ids := stepIds_eq steps
    refine ⟨named, nonempty, ?_, fun step member => ⟨steps step member, ?_⟩⟩
    · rw [ids]
      exact repeated_eq_nil_iff.mpr ⟨distinct, by simp⟩
    · rintro ⟨field, id⟩ listed
      have refers := Step.mem_references_iff.mp listed
      rw [referenceProblems_eq_nil_iff, ids]
      exact ⟨List.mem_map.mpr (known step member refers), reachable step member refers⟩

instance : Decidable workflow.IsWellFormed :=
  decidable_of_iff _ isValid_iff_isWellFormed

/-- Exactly the well-formed workflows are accepted, and they are the ones for which there
is no message.  All others are refused with everything that is wrong with them. -/
theorem validated_iff_isWellFormed (workflow : Workflow) :
    (workflow.validated = .ok workflow ↔ workflow.IsWellFormed) ∧
    (workflow.problems.map Problem.message = [] ↔ workflow.IsWellFormed) ∧
    (¬ workflow.IsWellFormed → workflow.validated = .error (.configuration workflow.problems)) := by
  unfold validated
  rw [List.map_eq_nil_iff, ← List.isEmpty_iff, ← isValid]
  simp only [← isValid_iff_isWellFormed]
  cases workflow.isValid <;> simp

-- A step that falls back to a sub-step of another is of no use.
example :
    ¬ IsWellFormed {
      id := "orders"
      steps := [
        { id := "fan", type := .parallel, config := .object [("stepIds", .array [.text "sub"])] },
        { id := "sub", type := .delay },
        { id := "after", type := .delay
          failure := { action := some .goto, fallbackStep := some "sub" } }] } := by
  decide

end Workflow
end WorkflowEngine
