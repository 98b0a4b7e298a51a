import WorkflowEngine.Proofs.Branching
import WorkflowEngine.Proofs.Fallback
import WorkflowEngine.Proofs.SubSteps
import WorkflowEngine.Proofs.Success

/-!
# Where references lead

The checks of a workflow know its steps by their identifiers, and a schedule knows them by
their positions.  For a valid workflow both speak of the same steps, so that whatever a
step refers to is found while the workflow runs: where a branch leads, where a failed step
goes on, and what a parallel step fans out to.
-/

namespace WorkflowEngine
namespace Schedule

/-! ## Positions of references -/

/-- A step has a position on the main line: it is found there, and no step lists it. -/
structure OnMainLine (schedule : Schedule) (id : String) (position : Nat) : Prop
    extends Finds schedule id position where
  unowned : schedule.isOwned id = false
  unlisted : ∀ lister ∈ schedule.steps, ¬ lister.RefersTo .subStep id

section

variable
  {schedule : Schedule}
  {workflow : Workflow}
  {step : Step}
  {field : ReferenceField}
  {id : String}
  (follows : schedule.steps = workflow.orderedSteps)
  (valid : workflow.isValid = true)
include follows valid

/-- Whatever a step refers to is on the main line, unless it is a sub-step. -/
theorem onMainLine_of_refersTo
    (member : step ∈ workflow.steps)
    (refers : step.RefersTo field id)
    (route : field ≠ .subStep) :
    ∃ position, schedule.OnMainLine id position := by
  have wellFormed := Workflow.isValid_iff_isWellFormed.mp valid
  have unlisted := wellFormed.reachable step member refers route
  obtain ⟨target, known, rfl⟩ := wellFormed.known step member refers
  obtain ⟨position, finds⟩ := finds_of_mem follows valid known
  refine ⟨position, finds, ?_, fun lister scheduled => ?_⟩
  · rw [Bool.eq_false_iff, ne_eq, isOwned_iff_listed follows valid known]
    rintro ⟨lister, listing, listed⟩
    exact unlisted lister listing (Step.mem_subSteps_iff.mp listed)
  · rw [follows, workflow.orderedSteps_perm.mem_iff] at scheduled
    exact unlisted lister scheduled

end

/-- An outcome that is noted moves no step. -/
theorem OnMainLine.record
    {schedule : Schedule}
    {id : String}
    {position : Nat}
    (mainLine : schedule.OnMainLine id position)
    (other : String)
    (outcome : StepOutcome) :
    (schedule.record other outcome).OnMainLine id position :=
  ⟨⟨mainLine.found, mainLine.here, mainLine.only⟩, mainLine.unowned, mainLine.unlisted⟩

/-! ## Landing -/

/-- A jump to a step lands at its position. -/
theorem Finds.landsAt
    {schedule : Schedule}
    {id : String}
    {position : Nat}
    (finds : schedule.Finds id position) :
    (schedule.jumpTo position).LandsAt position := by
  obtain ⟨target, here, -⟩ := finds.here
  obtain ⟨inside, -⟩ := List.getElem?_eq_some_iff.mp here
  unfold jumpTo
  rw [Nat.min_eq_left inside.le]
  exact schedule.landsAt_settleAt position

end Schedule

namespace Step

variable
  {step : Step}
  {outcome : Outcome}
  {default : FailureAction}
  {schedule : Schedule}
  {data : Object}
  {id : String}

/-- A step that branches chooses where to go on by the data of its outcome.  Only true
counts as a condition that holds. -/
inductive Chooses (step : Step) (data : Object) : String → Prop
  | onTrue
      {id : String}
      (holds : Dict.find? "result" data = some (.bool true))
      (named : step.config.field? "trueStepId" = some (.text id)) :
      Chooses step data id
  | onFalse
      {id : String}
      (fails : Dict.find? "result" data ≠ some (.bool true))
      (named : step.config.field? "falseStepId" = some (.text id)) :
      Chooses step data id

theorem Chooses.exists_refersTo (chooses : step.Chooses data id) :
    ∃ field, step.RefersTo field id ∧ field ≠ .subStep := by
  cases chooses with
  | onTrue _ named => exact ⟨_, .onTrue named, nofun⟩
  | onFalse _ named => exact ⟨_, .onFalse named, nofun⟩

theorem Chooses.target_eq (chooses : step.Chooses data id) :
    (if ((Dict.find? "result" data).bind Json.bool?).getD false then step.onTrue
      else step.onFalse) = some id := by
  cases chooses with
  | onTrue holds named =>
    rw [holds]
    exact configText?_eq_some_iff.mpr named
  | onFalse fails named =>
    have failed : ((Dict.find? "result" data).bind Json.bool?).getD false = false := by
      cases found : Dict.find? "result" data with
      | none => rfl
      | some value =>
        cases value with
        | bool value =>
          cases value with
          | true => exact (fails found).elim
          | false => rfl
        | _ => rfl
    rw [failed]
    exact configText?_eq_some_iff.mpr named

/-- What a step refers to is where a schedule looks for it. -/
structure IsResolved (step : Step) (schedule : Schedule) : Prop where
  found : ∀ {field id}, step.RefersTo field id → ∃ position, schedule.Finds id position
  routes : ∀ {field id}, step.RefersTo field id → field ≠ .subStep →
    ∃ position, schedule.OnMainLine id position
  continues : ∀ {outcome default id}, (step.isCritical && outcome.raised) = false →
    step.effectiveAction default = .continue → step.failure.continueStep = some id →
      ∃ position, schedule.OnMainLine id position ∧
        step.reaction outcome default schedule = .jump position
  fallsBack : ∀ {outcome default id}, (step.isCritical && outcome.raised) = false →
    step.effectiveAction default = .goto → step.failure.fallbackStep = some id →
      ∃ position, schedule.OnMainLine id position ∧
        step.reaction outcome default schedule = .jump position
  /-- Every sub-step is fanned out to. -/
  branches : (schedule.branches step).map Step.id = step.subSteps

theorem isResolved
    {workflow : Workflow}
    (follows : schedule.steps = workflow.orderedSteps)
    (valid : workflow.isValid = true)
    (member : step ∈ workflow.steps) :
    step.IsResolved schedule where
  found refers := schedule.finds_of_refersTo follows valid member refers
  routes refers route := schedule.onMainLine_of_refersTo follows valid member refers route
  continues tolerable goesOn named := by
    obtain ⟨position, mainLine⟩ :=
      schedule.onMainLine_of_refersTo follows valid member (.continueWith named) nofun
    refine ⟨position, mainLine, ?_⟩
    rw [reaction_of_continue goesOn tolerable, named, Option.bind_some, mainLine.found]
  fallsBack tolerable goto named := by
    obtain ⟨position, mainLine⟩ :=
      schedule.onMainLine_of_refersTo follows valid member (.fallback named) nofun
    refine ⟨position, mainLine, ?_⟩
    rw [reaction_of_goto goto tolerable, named, Option.bind_some, mainLine.found]
  branches := schedule.ids_branches follows valid member

end Step

namespace Execution

variable
  {execution : Execution}
  {step : Step}
  {outcome : Outcome}
  {id : String}
  {position : Nat}

theorem schedule_route (mainLine : execution.schedule.OnMainLine id position) :
    (execution.route id).schedule = execution.schedule.jumpTo position := by
  unfold route
  rw [mainLine.found, mainLine.unowned]
  rfl

/-- After the success of a step that branches, the execution goes on at the chosen step,
unless it is told to leave out the rest. -/
theorem succeed_of_chooses
    (condition : step.type = .condition)
    (chooses : step.Chooses outcome.result.data id)
    (mainLine : execution.schedule.OnMainLine id position) :
    (outcome.result.skipRemaining = true →
      (execution.succeed step outcome).2 = .finish .completed) ∧
    (outcome.result.skipRemaining = false →
      (execution.succeed step outcome).2 = .goOn ∧
      (execution.succeed step outcome).1.schedule.LandsAt position) := by
  have target := chooses.target_eq
  unfold succeed
  dsimp only
  constructor
  · intro skips
    rw [if_pos skips]
  · intro stays
    rw [if_neg (by simp [stays]), if_pos condition, target]
    dsimp only
    refine ⟨rfl, ?_⟩
    have noted := mainLine.record step.id .completed
    rw [schedule_route noted]
    exact noted.landsAt

/-! ## Runs -/

section

variable
  {environment : Environment}
  {workflow : Workflow}
  {call : Call}
  {past acting : History}
  {last : Execution}
  {flow : Flow}
  {record : StepRecord}

/-- Where the last record of a turn tells of a branch that was chosen, the turn lands at
the step to which the branch leads. -/
theorem Run.lands_of_chooses
    (valid : workflow.isValid = true)
    (run : Run environment workflow call past (.done (.turn execution)))
    (current : execution.schedule.current? = some step)
    (acted : execution.activity.Ends acting (last, flow))
    (condition : step.type = .condition)
    (final : acting.attempts.getLast? = some record)
    (completed : record.status = .completed)
    (chooses : step.Chooses record.output id) :
    ∃ work, execution.Does step work ∧ record.TellsOf work ∧
      (work.outcome.result.skipRemaining = true → flow = .finish .completed) ∧
      (work.outcome.result.skipRemaining = false → flow = .goOn ∧
        ∃ position, execution.schedule.OnMainLine id position ∧
          last.schedule.LandsAt position) := by
  have member := run.follows.mem_steps (Schedule.mem_steps_of_current? current)
  have single : step.type ≠ .parallel := by
    rw [condition]
    nofun
  obtain ⟨work, does, tells, middle, same, cursor, flowed⟩ :=
    (acted_of_ends acted).succeeds current single final completed
  obtain ⟨field, refers, route⟩ := chooses.exists_refersTo
  obtain ⟨position, mainLine⟩ :=
    execution.schedule.onMainLine_of_refersTo run.follows.steps valid member refers route
  -- The outcome that the execution goes on with is the one on record.
  rw [tells.reports.output] at chooses
  have reached : middle.schedule.OnMainLine id position := same ▸ mainLine
  obtain ⟨skips, stays⟩ := succeed_of_chooses condition chooses reached
  refine ⟨work, does, tells, fun skip => flowed.trans (skips skip), fun stay => ?_⟩
  obtain ⟨goesOn, lands⟩ := stays stay
  exact ⟨flowed.trans goesOn, position, mainLine, cursor ▸ lands⟩

/-- A turn with a parallel step under the cursor has a branch for every sub-step, in their
order, or there is a reason why it does not fan out at all. -/
theorem Run.fansOut_all
    (valid : workflow.isValid = true)
    (run : Run environment workflow call past (.done (.turn execution)))
    (current : execution.schedule.current? = some step)
    (acted : execution.activity.Ends acting (last, flow))
    (parallel : step.type = .parallel) :
    execution.Withholds step acting (last, flow) ∨
      ∃ branches, execution.FansOut step branches acting flow ∧
        branches.map (fun branch => branch.step.id) = step.subSteps := by
  have member := run.follows.mem_steps (Schedule.mem_steps_of_current? current)
  rcases (acted_of_ends acted).fansOut current parallel with
    withholds | ⟨branches, fansOut⟩
  · exact .inl withholds
  · obtain ⟨fanning, fanned, -⟩ := fansOut.fanned
    refine .inr ⟨branches, fansOut, ?_⟩
    rw [fanned.ids_eq, execution.schedule.ids_branches run.follows.steps valid member]

end

end Execution

/-- Whatever the steps of a valid workflow refer to is found in every schedule of its
steps, and on the main line unless it is a sub-step.  So in every run a failed step goes on
where it says, a branch leads to its step, or to the next one behind it that may run, and a
parallel step leaves no sub-step out, unless something keeps it from fanning out. -/
theorem Workflow.references_at_run_time
    {workflow : Workflow}
    (valid : workflow.isValid = true) :
    (∀ schedule : Schedule, schedule.steps = workflow.orderedSteps →
      ∀ step ∈ workflow.steps, step.IsResolved schedule) ∧
    ∀ {environment call past execution step acting last flow},
      Execution.Run environment workflow call past (.done (.turn execution)) →
      execution.schedule.current? = some step →
      execution.activity.Ends acting (last, flow) →
        step.IsResolved execution.schedule ∧
        (step.type = .condition → ∀ {record id}, acting.attempts.getLast? = some record →
          record.status = .completed → step.Chooses record.output id →
            ∃ work, execution.Does step work ∧ record.TellsOf work ∧
              (work.outcome.result.skipRemaining = true → flow = .finish .completed) ∧
              (work.outcome.result.skipRemaining = false → flow = .goOn ∧
                ∃ position, execution.schedule.OnMainLine id position ∧
                  last.schedule.LandsAt position)) ∧
        (step.type = .parallel →
          execution.Withholds step acting (last, flow) ∨
            ∃ branches, execution.FansOut step branches acting flow ∧
              branches.map (fun branch => branch.step.id) = step.subSteps) := by
  refine ⟨fun schedule follows step member => Step.isResolved follows valid member, ?_⟩
  intro environment call past execution step acting last flow run current acted
  have member := run.follows.mem_steps (Schedule.mem_steps_of_current? current)
  exact ⟨Step.isResolved run.follows.steps valid member,
    fun condition _ _ final completed chooses =>
      run.lands_of_chooses valid current acted condition final completed chooses,
    run.fansOut_all valid current acted⟩

/-- A workflow that leaves out a step if a condition holds. -/
def gated : Workflow where
  id := "gated"
  steps :=
    [{ id := "gate", type := .condition
       config := .object [("conditions", .array []), ("trueStepId", .text "order")] },
     { id := "note", type := .custom "note", order := 1 },
     { id := "order", type := .custom "order", order := 2 }]

/-- The condition holds. -/
def gatedReplies : List Reply :=
  [⟨.zero, .ok (StepResult.succeed.withOutput "result" (.bool true))⟩]

/-- So the first step leads to the last one. -/
theorem branch_of_gated :
    gated.isValid = true ∧
    (∀ step ∈ gated.steps, step.IsResolved (.ofWorkflow gated)) ∧
    ∃ history execution acting last flow gate,
      Execution.Run { handled := [(.condition, true)] } gated { executionId := "run" } history
        (.done (.turn execution)) ∧
      execution.schedule.current? = some gate ∧ gate.type = .condition ∧
      execution.activity.Ends acting (last, flow) ∧ flow = .goOn ∧
      (acting.attempts.map fun record => record.output) = [[("result", .bool true)]] ∧
      execution.schedule.OnMainLine "order" 2 ∧ last.schedule.LandsAt 2 := by
  have run := Execution.run_played { handled := [(.condition, true)] } gated
    { executionId := "run" } 0 []
  obtain ⟨execution, gate, record, reached, current, condition, named, place, recorded, output,
      completed, goesOn⟩ :
      ∃ (execution : Execution) (gate : Step) (record : StepRecord),
        (Execution.played { handled := [(.condition, true)] } gated { executionId := "run" }
          0 []).2 = .turn execution ∧
        execution.schedule.current? = some gate ∧ gate.type = .condition ∧
        gate.config.field? "trueStepId" = some (.text "order") ∧
        execution.schedule.position? "order" = some 2 ∧
        (execution.activity.play gatedReplies).1.attempts = [record] ∧
        record.output = [("result", .bool true)] ∧ record.status = .completed ∧
        (execution.activity.play gatedReplies).2.1.2 = .goOn :=
    ⟨_, _, _, rfl, rfl, rfl, rfl, rfl, rfl, rfl, rfl, rfl⟩
  rw [reached] at run
  have valid : gated.isValid = true := by rfl
  obtain ⟨resolved, routed⟩ := Workflow.references_at_run_time valid
  have acted := execution.activity.ends_play gatedReplies
  obtain ⟨-, branches, -⟩ := routed run current acted
  have chooses : gate.Chooses record.output "order" := .onTrue (by rw [output]; rfl) named
  obtain ⟨work, -, -, skips, stays⟩ :=
    branches condition (by rw [recorded]; rfl) completed chooses
  have stay : work.outcome.result.skipRemaining = false := by
    by_contra skip
    cases goesOn.symm.trans (skips (by simpa using skip))
  obtain ⟨-, position, mainLine, lands⟩ := stays stay
  obtain rfl : position = 2 := Option.some.inj (mainLine.found.symm.trans place)
  exact ⟨valid, resolved _ rfl, _, execution, _, _, _, gate, run, current, condition, acted,
    goesOn, by rw [recorded, List.map_singleton, output], mainLine, lands⟩

end WorkflowEngine
