import Mathlib.Logic.Relation
import WorkflowEngine.Execution.Run

/-!
# What an execution never gives up

An execution is made up of small changes.  None of them touches the environment, the
workflow, the steps or their number, and a step that has come out one way or another
never becomes open again.
-/

namespace WorkflowEngine

/-- One schedule comes from another by progress over the same steps. -/
structure Schedule.Continues (before after : Schedule) : Prop where
  steps : after.steps = before.steps
  noted : ∀ id, (before.outcome? id).isSome = true → (after.outcome? id).isSome = true

namespace Schedule

@[simp] theorem outcome?_record_self (schedule : Schedule) (id : String) (outcome : StepOutcome) :
    (schedule.record id outcome).outcome? id = some outcome :=
  Dict.find?_insert_self id outcome schedule.outcomes

/-- To note an outcome leaves those of other steps alone. -/
theorem outcome?_record_of_ne
    {id other : String}
    (different : other ≠ id)
    (schedule : Schedule)
    (outcome : StepOutcome) :
    (schedule.record id outcome).outcome? other = schedule.outcome? other :=
  Dict.find?_insert_of_ne different outcome schedule.outcomes

theorem Continues.refl (schedule : Schedule) : schedule.Continues schedule where
  steps := rfl
  noted _ known := known

theorem Continues.trans
    {before middle after : Schedule}
    (first : before.Continues middle)
    (second : middle.Continues after) :
    before.Continues after where
  steps := second.steps.trans first.steps
  noted id known := second.noted id (first.noted id known)

/-- Where a step is found depends on the steps alone. -/
theorem Continues.position?_eq
    {before after : Schedule}
    (continues : before.Continues after) :
    after.position? = before.position? := by
  funext id
  unfold position?
  rw [continues.steps]

/-- Wherever the cursor settles, the steps and the outcomes stay. -/
theorem continues_settleAt (schedule : Schedule) (position : Nat) :
    schedule.Continues (schedule.settleAt position) where
  steps := rfl
  noted _ known := known

/-- To move behind the last step forgets no outcome. -/
theorem continues_stop (schedule : Schedule) : schedule.Continues schedule.stop where
  steps := rfl
  noted _ known := known

/-- A new outcome takes the place of an earlier one and of nothing else. -/
theorem continues_record (schedule : Schedule) (id : String) (outcome : StepOutcome) :
    schedule.Continues (schedule.record id outcome) where
  steps := rfl
  noted other known := by
    by_cases same : other = id
    · rw [same, outcome?_record_self]
      rfl
    · rwa [outcome?_record_of_ne same]

/-- Noting the steps that never ran keeps every earlier outcome. -/
theorem find?_skipRest
    {id : String}
    {outcome : StepOutcome}
    (steps : List Step)
    {outcomes : Dict StepOutcome}
    (known : Dict.find? id outcomes = some outcome) :
    Dict.find? id (skipRest steps outcomes) = some outcome := by
  induction steps generalizing outcomes with
  | nil => exact known
  | cons step rest inductionHypothesis =>
    unfold skipRest
    split
    next => exact inductionHypothesis known
    next absent =>
      apply inductionHypothesis
      have different : id ≠ step.id := by
        rintro rfl
        simp [known] at absent
      rwa [Dict.find?_insert_of_ne different]

/-- The end only adds outcomes: what has none yet was skipped. -/
theorem continues_finish (schedule : Schedule) : schedule.Continues schedule.finish where
  steps := rfl
  noted id known := by
    obtain ⟨outcome, known⟩ := Option.isSome_iff_exists.mp known
    have kept : schedule.finish.outcome? id = some outcome :=
      find?_skipRest schedule.steps known
    rw [kept]
    rfl

end Schedule

namespace Execution

/-- One execution comes from another by progress in the same run. -/
structure Continues (before after : Execution) : Prop where
  environment : after.environment = before.environment
  workflow : after.workflow = before.workflow
  schedule : before.schedule.Continues after.schedule
  totalSteps : after.record.totalSteps = before.record.totalSteps

theorem Continues.refl (execution : Execution) : execution.Continues execution where
  environment := rfl
  workflow := rfl
  schedule := .refl _
  totalSteps := rfl

theorem Continues.trans
    {before middle after : Execution}
    (first : before.Continues middle)
    (second : middle.Continues after) :
    before.Continues after where
  environment := second.environment.trans first.environment
  workflow := second.workflow.trans first.workflow
  schedule := first.schedule.trans second.schedule
  totalSteps := second.totalSteps.trans first.totalSteps

/-! ## Single changes -/

/-- One of the changes that an execution is made up of. -/
inductive Changed (before : Execution) : Execution → Prop
  /-- Neither the schedule nor the context. -/
  | kept
      {after : Execution}
      (environment : after.environment = before.environment)
      (workflow : after.workflow = before.workflow)
      (schedule : after.schedule = before.schedule)
      (context : after.context = before.context)
      (totalSteps : after.record.totalSteps = before.record.totalSteps) :
      Changed before after
  | noted (id : String) (outcome : StepOutcome) : Changed before (before.note id outcome)
  | moved (position : Nat) :
      Changed before { before with schedule := before.schedule.settleAt position }
  | stopped : Changed before { before with schedule := before.schedule.stop }
  | stored (step : Step) (result : Object) :
      Changed before { before with context := step.applyOutput result before.context }

/-- No single change takes an outcome away. -/
theorem Changed.continues
    {before after : Execution}
    (changed : before.Changed after) :
    before.Continues after := by
  cases changed with
  | kept environment workflow schedule context totalSteps =>
    refine ⟨environment, workflow, ?_, totalSteps⟩
    rw [schedule]
    exact .refl _
  | noted id outcome => exact ⟨rfl, rfl, Schedule.continues_record _ id outcome, rfl⟩
  | moved position => exact ⟨rfl, rfl, Schedule.continues_settleAt _ position, rfl⟩
  | stopped => exact ⟨rfl, rfl, Schedule.continues_stop _, rfl⟩
  | stored => exact ⟨rfl, rfl, .refl _, rfl⟩

/-- One execution comes from another by any number of changes. -/
abbrev Evolves : Execution → Execution → Prop := Relation.ReflTransGen Changed

/-- However an execution evolves, it keeps its environment, its workflow and all outcomes. -/
theorem Evolves.continues
    {before after : Execution}
    (evolves : before.Evolves after) :
    before.Continues after := by
  induction evolves with
  | refl => exact .refl before
  | tail _ changed inductionHypothesis => exact inductionHypothesis.trans changed.continues

section

variable (execution : Execution)

/-- An execution evolves by noting an outcome. -/
theorem evolves_note (id : String) (outcome : StepOutcome) :
    execution.Evolves (execution.note id outcome) :=
  .single (.noted id outcome)

theorem evolves_advance : execution.Evolves execution.advance := .single (.moved _)

theorem evolves_jumpTo (position : Nat) : execution.Evolves (execution.jumpTo position) :=
  .single (.moved _)

/-- To go to a step is to jump there, or to move on where there is no such step. -/
theorem evolves_route (target : String) : execution.Evolves (execution.route target) := by
  unfold route
  split
  · split
    · exact execution.evolves_advance
    · exact execution.evolves_jumpTo _
  · exact execution.evolves_advance

/-- After a success a result is stored, an outcome is noted, and the cursor moves. -/
theorem evolves_succeed (step : Step) (outcome : Outcome) :
    execution.Evolves (execution.succeed step outcome).1 := by
  have stored : execution.Evolves
      { execution with
        context :=
          if step.type = .parallel then execution.context
          else step.applyOutput outcome.result.data execution.context } := by
    split
    · exact .refl
    · exact .single (.stored step outcome.result.data)
  have noted := stored.trans (evolves_note _ step.id .completed)
  unfold succeed
  dsimp only
  split
  · exact noted.tail .stopped
  · split
    · exact noted.trans (evolves_route _ _)
    · exact noted.trans (evolves_advance _)

/-- A branch has its result stored if it succeeds, and its outcome noted in any case. -/
theorem evolves_settleBranch (step : Step) (outcome : Outcome) :
    execution.Evolves (execution.settleBranch step outcome) := by
  unfold settleBranch
  split
  · exact (Relation.ReflTransGen.single (.stored step outcome.result.data)).tail
      (.noted step.id .completed)
  · exact execution.evolves_note _ _

/-- No ending forgets an outcome. -/
theorem continues_settled (ending : Ending) : execution.Continues (execution.settled ending) := by
  unfold settled
  split
  · exact .refl execution
  · exact ⟨rfl, rfl, Schedule.continues_finish _, rfl⟩

end

end Execution
end WorkflowEngine
