import WorkflowEngine.Proofs.Branching
import WorkflowEngine.Proofs.FinishedWork
import WorkflowEngine.Proofs.References

/-!
# Nested parallel steps

On its own a parallel step needs no handler.  As a sub-step of another one it is
dispatched like any other step, and fails unless there is a handler for its type.  A
valid workflow may nest parallel steps, and nothing else keeps a step from its handler.
-/

namespace WorkflowEngine

/-- An attempt that fails because there is no handler for its step. -/
structure Work.IsUnhandled (environment : Environment) (work : Work) : Prop where
  unhandled : environment.handled.lookup work.invocation.step.type = none
  outcome : work.outcome = .unavailable work.invocation.step.type

/-- Without a handler every attempt fails. -/
theorem Attempted.outcome_of_unhandled
    {environment : Environment}
    {context : Context}
    {step : Step}
    {input : Object}
    {history : History}
    {outcome : Outcome}
    (attempted : Attempted environment context step input history (some outcome))
    (unhandled : environment.handled.lookup step.type = none) :
    outcome = .unavailable step.type := by
  have unavailable := Dispatch.ofStep_unhandled unhandled context input
  cases attempted with
  | settled dispatched =>
    rw [unavailable] at dispatched
    cases dispatched
    rfl
  | answered dispatched =>
    rw [unavailable] at dispatched
    cases dispatched

/-- The branch of a sub-step that is dispatched without a handler fails. -/
theorem Branched.ran_unhandled
    {environment : Environment}
    {context : Context}
    {step : Step}
    {history : History}
    {branch : Branch}
    (branched : Branched environment context step history branch)
    (dispatched : (context.dispatch? step).isSome = true)
    (unhandled : environment.handled.lookup step.type = none) :
    ∃ input startedAt, branch = .ran step input startedAt (.unavailable step.type) := by
  have unavailable := Dispatch.ofStep_unhandled unhandled context
  cases branched with
  | inactive idle => simp [Context.dispatch?, idle] at dispatched
  | unmet _ refused => simp [Context.dispatch?, refused] at dispatched
  | unevaluated _ broken => simp [Context.dispatch?, broken] at dispatched
  | unresolved _ met unresolved => simp [Context.dispatch?, met, unresolved] at dispatched
  | settled _ _ _ settled =>
    rw [unavailable] at settled
    cases settled
    exact ⟨_, _, rfl⟩
  | called _ _ _ called =>
    rw [unavailable] at called
    cases called

namespace Execution

/-- The next step is a parallel one, and it lists another parallel step. -/
structure Nests (execution : Execution) (outer inner : Step) : Prop where
  current : execution.schedule.current? = some outer
  outer_type : outer.type = .parallel
  inner_type : inner.type = .parallel
  listed : inner ∈ execution.schedule.branches outer
  other : inner.id ≠ outer.id

section

variable
  {environment : Environment}
  {workflow : Workflow}
  {call : Call}
  {execution last : Execution}
  {step outer inner : Step}
  {invocation : Invocation}
  {work : Work}
  {history : History}
  {next : Next}
  {flow : Flow}

/-- A parallel step is dispatched as a sub-step of another one alone. -/
theorem Dispatches.nests
    (dispatches : execution.Dispatches step invocation)
    (valid : workflow.isValid = true)
    (follows : Follows environment workflow execution)
    (current : execution.schedule.current? = some step)
    (nested : invocation.step.type = .parallel) :
    execution.Nests step invocation.step := by
  cases dispatches with
  | itself single => exact (single nested).elim
  | branch parallel _ listed =>
    refine ⟨current, parallel, nested, listed, fun same => ?_⟩
    have member := follows.mem_steps (Schedule.mem_steps_of_current? current)
    have own := (Schedule.listed_of_mem_branches listed).1
    rw [same] at own
    exact Workflow.id_notMem_subSteps valid member parallel own

/-- Only steps of the workflow are dispatched. -/
theorem Dispatches.mem_steps
    (dispatches : execution.Dispatches step invocation)
    (follows : Follows environment workflow execution)
    (current : execution.schedule.current? = some step) :
    invocation.step ∈ workflow.steps := by
  apply follows.mem_steps
  cases dispatches with
  | itself => exact Schedule.mem_steps_of_current? current
  | branch _ _ listed => exact Schedule.mem_steps_of_mem_branches listed

/-- If all other step types have handlers, then just the parallel steps that are
dispatched fail for want of one. -/
theorem Does.isUnhandled_iff
    (does : execution.Does step work)
    (handled : ∀ step ∈ workflow.steps, step.type ≠ .parallel →
      (environment.handled.lookup step.type).isSome = true)
    (follows : Follows environment workflow execution)
    (current : execution.schedule.current? = some step) :
    work.IsUnhandled environment ↔
      environment.handled.lookup .parallel = none ∧ work.invocation.step.type = .parallel := by
  constructor
  · rintro ⟨unhandled, -⟩
    have nested : work.invocation.step.type = .parallel := by
      by_contra single
      have known := handled _ (does.dispatches.mem_steps follows current) single
      rw [unhandled] at known
      cases known
    rw [nested] at unhandled
    exact ⟨unhandled, nested⟩
  · rintro ⟨unhandled, nested⟩
    rw [← nested] at unhandled
    obtain ⟨part, attempted⟩ := does.attempted
    rw [follows.environment_eq] at attempted
    exact ⟨unhandled, attempted.outcome_of_unhandled unhandled⟩

/-- A turn dispatches the parallel steps among its branches, and so they fail. -/
theorem FansOut.exists_unhandled
    {branches : List Branch}
    (fansOut : execution.FansOut outer branches history flow)
    (nests : execution.Nests outer inner)
    (dispatched : (execution.context.dispatch? inner).isSome = true)
    (unhandled : execution.environment.handled.lookup .parallel = none) :
    ∃ input startedAt, .ran inner input startedAt (.unavailable .parallel) ∈ branches := by
  obtain ⟨fanning, fanned, -⟩ := fansOut.fanned
  obtain ⟨branch, found, part, branched⟩ := fanned.exists_branch nests.listed
  rw [← nests.inner_type] at unhandled ⊢
  obtain ⟨input, startedAt, rfl⟩ := branched.ran_unhandled dispatched unhandled
  exact ⟨input, startedAt, found⟩

/-- Where every step type but the parallel one has a handler, an attempt fails for want of
one exactly if it is an attempt at a parallel step and there is no handler for these.
Such attempts are made for sub-steps of other parallel steps alone.  For them they are
always made, also by an engine that runs parallel steps by itself elsewhere. -/
theorem Run.unhandled_iff_nested
    (valid : workflow.isValid = true)
    (handled : ∀ step ∈ workflow.steps, step.type ≠ .parallel →
      (environment.handled.lookup step.type).isSome = true)
    (run : Run environment workflow call history (.done next)) :
    (∃ works lost,
      RunWork environment workflow call history works lost ∧
      Accounted works history.attempts ∧
      ∀ work ∈ works ++ lost,
        (work.IsUnhandled environment ↔
          environment.handled.lookup .parallel = none ∧
            work.invocation.step.type = .parallel) ∧
        (work.invocation.step.type = .parallel → ∃ past execution outer,
          Run environment workflow call past (.done (.turn execution)) ∧
            execution.Nests outer work.invocation.step)) ∧
    ∀ {past acting execution last flow outer inner},
      Run environment workflow call past (.done (.turn execution)) →
      execution.Nests outer inner →
      execution.activity.Ends acting (last, flow) →
        execution.Withholds outer acting (last, flow) ∨
        ∃ branches, execution.FansOut outer branches acting flow ∧
          ((execution.context.dispatch? inner).isSome = true →
            environment.handled.lookup .parallel = none →
            ∃ input startedAt,
              .ran inner input startedAt (.unavailable .parallel) ∈ branches) := by
  refine ⟨?_, fun {past acting execution last flow outer inner} begun nests acted => ?_⟩
  · obtain ⟨works, lost, runWork, -, dispatched⟩ := run.exists_works
    refine ⟨works, lost, runWork, runWork.audited.accounted, fun work member => ?_⟩
    obtain ⟨past, execution, step, begun, current, does⟩ := dispatched work member
    exact ⟨does.isUnhandled_iff handled begun.follows current, fun nested =>
      ⟨past, execution, step, begun, does.dispatches.nests valid begun.follows current nested⟩⟩
  · rcases (acted_of_ends acted).fansOut nests.current nests.outer_type with
      withholds | ⟨branches, fansOut⟩
    · exact .inl withholds
    · refine .inr ⟨branches, fansOut, fun dispatched unhandled => ?_⟩
      rw [← begun.follows.environment_eq] at unhandled
      exact fansOut.exists_unhandled nests dispatched unhandled

end

/-- A workflow that does not nest parallel steps lacks no handler. -/
theorem no_unhandled_work_in_spread :
    spread.isValid = true ∧
    ∃ history record works lost,
      Run { handled := [(.custom "call", true)] } spread { executionId := "run" } history
        (.done (.ended record)) ∧
      history.attempts.map StepRecord.stepId = ["branch", "fan", "last", "last"] ∧
      RunWork { handled := [(.custom "call", true)] } spread { executionId := "run" } history
        works lost ∧
      Accounted works history.attempts ∧
      ∀ work ∈ works ++ lost, ¬ work.IsUnhandled { handled := [(.custom "call", true)] } := by
  have run := run_played { handled := [(.custom "call", true)] } spread { executionId := "run" } 5
    spreadReplies
  obtain ⟨record, ended⟩ : ∃ record,
      (played { handled := [(.custom "call", true)] } spread { executionId := "run" } 5
        spreadReplies).2 = .ended record := ⟨_, rfl⟩
  rw [ended] at run
  have valid : spread.isValid = true := by rfl
  have fan : ∀ step ∈ spread.steps, step.type = .parallel → step.id = "fan" := by
    intro step member parallel
    simp only [spread, List.mem_cons, List.not_mem_nil, or_false] at member
    rcases member with rfl | rfl | rfl
    · rfl
    · cases parallel
    · cases parallel
  obtain ⟨⟨works, lost, runWork, accounted, unhandled⟩, -⟩ :=
    run.unhandled_iff_nested valid fun step member single => by
      simp only [spread, List.mem_cons, List.not_mem_nil, or_false] at member
      rcases member with rfl | rfl | rfl
      · exact (single rfl).elim
      · rfl
      · rfl
  refine ⟨valid, _, record, works, lost, run, rfl, runWork, accounted, fun work member fails => ?_⟩
  obtain ⟨iff, nested⟩ := unhandled work member
  obtain ⟨past, execution, outer, begun, nests⟩ := nested (iff.mp fails).2
  have known := begun.follows.mem_steps (Schedule.mem_steps_of_current? nests.current)
  have listed := begun.follows.mem_steps (Schedule.mem_steps_of_mem_branches nests.listed)
  exact nests.other ((fan _ listed nests.inner_type).trans (fan _ known nests.outer_type).symm)

/-- A workflow with a parallel step in a parallel step. -/
def wrapped : Workflow where
  id := "wrapped"
  steps :=
    [{ id := "outer", type := .parallel
       config := .object [("stepIds", .array [.text "inner"])] },
     { id := "inner", type := .parallel, order := 1
       config := .object [("stepIds", .array [.text "call"])] },
     { id := "call", type := .custom "call", order := 2 }]

/-- It is valid, and there is a handler for its only other step, but the inner step finds
none. -/
theorem nested_step_unhandled :
    wrapped.isValid = true ∧
    (∀ step ∈ wrapped.steps, step.type ≠ .parallel →
      (List.lookup step.type [(StepType.custom "call", true)]).isSome = true) ∧
    ∃ history record attempt,
      Run { handled := [(.custom "call", true)] } wrapped { executionId := "run" } history
        (.done (.ended record)) ∧
      attempt ∈ history.attempts ∧ attempt.stepId = "inner" ∧ attempt.status = .failed ∧
      attempt.errorMessage = some "no handler available for step type 'parallel'" ∧
      record.status = .failed := by
  have run := run_played { handled := [(.custom "call", true)] } wrapped
    { executionId := "run" } 2 []
  obtain ⟨record, attempt, ended, failed, first, named, unsuccessful, message⟩ :
      ∃ (record : ExecutionRecord) (attempt : StepRecord),
        (played { handled := [(.custom "call", true)] } wrapped { executionId := "run" } 2 []).2 =
          .ended record ∧
        record.status = .failed ∧
        (played { handled := [(.custom "call", true)] } wrapped
          { executionId := "run" } 2 []).1.attempts[0]? = some attempt ∧
        attempt.stepId = "inner" ∧ attempt.status = .failed ∧
        attempt.errorMessage = some "no handler available for step type 'parallel'" :=
    ⟨_, _, rfl, rfl, rfl, rfl, rfl, rfl⟩
  rw [ended] at run
  refine ⟨by rfl, ?_, _, record, attempt, run, List.mem_of_getElem? first, named, unsuccessful,
    message, failed⟩
  intro step member single
  simp only [wrapped, List.mem_cons, List.not_mem_nil, or_false] at member
  rcases member with rfl | rfl | rfl
  · exact (single rfl).elim
  · exact (single rfl).elim
  · rfl

end Execution
end WorkflowEngine
