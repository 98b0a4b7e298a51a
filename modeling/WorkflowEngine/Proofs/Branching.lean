import WorkflowEngine.Proofs.Blocks
import WorkflowEngine.Proofs.CriticalStep
import WorkflowEngine.Proofs.HandlerWork

/-!
# Turns that fan out

The visit of a parallel step fans out once, or not at all.  What is done in the branches
can be told before: the context of the visit decides which sub-steps are dispatched, and
with what.  The branches leave their records before that of the parallel step, unless
time runs out.
-/

namespace WorkflowEngine

namespace Context

variable (context : Context) (step : Step)

/-- What a sub-step is dispatched with, if it is. -/
def dispatch? : Option Invocation :=
  if step.isActive then
    match
      Condition.evaluateAll context.semantics step.conditions (.object context.data),
      step.resolveInput context
    with
    | .ok true, .ok input => some ⟨step, input, context⟩
    | _, _ => none
  else none

/-- Whether a sub-step comes to an outcome, dispatched or not. -/
def enters : Bool :=
  step.isActive &&
    match Condition.evaluateAll context.semantics step.conditions (.object context.data) with
    | .ok false => false
    | _ => true

variable {context step}

/-- What a sub-step is dispatched with is the sub-step itself. -/
theorem step_of_dispatch?
    {invocation : Invocation}
    (dispatched : context.dispatch? step = some invocation) :
    invocation.step = step := by
  unfold dispatch? at dispatched
  split at dispatched
  next =>
    split at dispatched
    next =>
      cases dispatched
      rfl
    next => cases dispatched
  next => cases dispatched

end Context

namespace Branch

/-- What was dispatched in some branches. -/
def works? (context : Context) (branches : List Branch) : List Work :=
  branches.filterMap (·.work? context)

end Branch

/-! ## Branches -/

section

variable
  {environment : Environment}
  {context : Context}
  {step : Step}
  {steps : List Step}
  {history : History}
  {branch : Branch}
  {branches : List Branch}

theorem Branched.dispatch?_eq
    (branched : Branched environment context step history branch) :
    (branch.work? context).map Work.invocation = context.dispatch? step := by
  cases branched with
  | inactive idle => simp [Branch.work?, Context.dispatch?, idle]
  | unmet _ refused => simp [Branch.work?, Context.dispatch?, refused]
  | unevaluated _ broken => simp [Branch.work?, Context.dispatch?, broken]
  | unresolved _ met unresolved => simp [Branch.work?, Context.dispatch?, met, unresolved]
  | settled active met resolved => simp [Branch.work?, Context.dispatch?, active, met, resolved]
  | called active met resolved => simp [Branch.work?, Context.dispatch?, active, met, resolved]

theorem Branched.isRan_eq
    (branched : Branched environment context step history branch) :
    branch.isRan = context.enters step := by
  cases branched with
  | inactive idle => simp [Branch.isRan, Context.enters, idle]
  | unmet active refused => simp [Branch.isRan, Context.enters, refused]
  | unevaluated active broken => simp [Branch.isRan, Context.enters, active, broken]
  | unresolved active met => simp [Branch.isRan, Context.enters, active, met]
  | settled active met => simp [Branch.isRan, Context.enters, active, met]
  | called active met => simp [Branch.isRan, Context.enters, active, met]

/-- The context decides what is dispatched in the branches. -/
theorem FannedOut.works?_eq
    (fanned : FannedOut environment context steps history branches) :
    (Branch.works? context branches).map Work.invocation =
      steps.filterMap context.dispatch? := by
  induction fanned with
  | nil => rfl
  | cons branched _ inductionHypothesis =>
    unfold Branch.works? at inductionHypothesis ⊢
    rw [List.filterMap_cons, List.filterMap_cons, ← branched.dispatch?_eq,
      ← inductionHypothesis]
    cases Branch.work? context _ <;> rfl

/-- The context decides which sub-steps come to an outcome. -/
theorem FannedOut.ranIds_eq
    (fanned : FannedOut environment context steps history branches) :
    Branch.ranIds branches = (steps.filter context.enters).map Step.id := by
  induction fanned with
  | nil => rfl
  | cons branched _ inductionHypothesis =>
    unfold Branch.ranIds at inductionHypothesis ⊢
    rw [List.filter_cons, List.filter_cons, branched.isRan_eq]
    split
    · rw [List.map_cons, List.map_cons, branched.step_eq, inductionHypothesis]
    · exact inductionHypothesis

/-- The handlers that are called are those for what is dispatched, less what is settled
without a call. -/
theorem FannedOut.ofCall_eq
    (fanned : FannedOut environment context steps history branches) :
    history.invocations.map .ofCall =
      (Branch.works? context branches).filter (·.isCall environment) := by
  have timely : ∀ called ∈ history.invocations,
      called.2.delay.ticks ≤ (Branch.longest branches).ticks := by
    rintro ⟨invocation, reply⟩ member
    obtain ⟨step, _, input, startedAt, -, -, ran⟩ := fanned.branch_of_call member
    have within := (Branch.ticks_le_foldl branches .zero).2 _ ran
    rwa [Branch.duration, Reply.duration_outcome] at within
  have calls := fanned.calls_eq (Branch.longest branches).ticks
  rw [Branch.works_longest, List.filter_eq_self.mpr (by simpa using timely)] at calls
  exact calls

/-- Every step that is fanned out has a branch. -/
theorem FannedOut.exists_branch
    (fanned : FannedOut environment context steps history branches)
    (member : step ∈ steps) :
    ∃ branch ∈ branches, ∃ part, Branched environment context step part branch := by
  induction fanned with
  | nil => cases member
  | cons branched _ inductionHypothesis =>
    rcases List.mem_cons.mp member with rfl | member
    · exact ⟨_, List.mem_cons_self, _, branched⟩
    · obtain ⟨branch, found, rest⟩ := inductionHypothesis member
      exact ⟨branch, List.mem_cons_of_mem _ found, rest⟩

end

namespace Execution

section

variable
  {step : Step}
  {input : Object}
  {before after : Execution}
  {history : History}
  {result : Execution × Flow}

/-- A turn fans out a parallel step into branches, and comes to a flow.  Their handlers
are called, and their records come before that of the parallel step. -/
structure FansOut
    (execution : Execution)
    (parent : Step)
    (branches : List Branch)
    (history : History)
    (flow : Flow) : Prop where
  fanned : ∃ fanning,
    FannedOut execution.environment execution.context (execution.schedule.branches parent)
      fanning branches ∧
    history.invocations = fanning.invocations
  recorded :
    (flow.IsTimedOut ∧ history.attempts.map StepRecord.stepId = [parent.id]) ∨
      (¬ flow.IsTimedOut ∧
        history.attempts.map StepRecord.stepId = Branch.ranIds branches ++ [parent.id])

/-- What keeps a turn from fanning out the step under the cursor. -/
inductive Hindered (execution : Execution) (parent : Step) : Execution × Flow → Prop
  /-- No step is looked at, as the execution is paused or was cancelled. -/
  | halted
      {result : Execution × Flow}
      (halts : Halts result) :
      Hindered execution parent result
  /-- Time is up before anything is dispatched. -/
  | late
      {last : Execution}
      {named : Option String} :
      Hindered execution parent (last, .finish (.timedOut named))
  | unmet
      {result : Execution × Flow}
      (refused : execution.conditionsOf parent = .ok false) :
      Hindered execution parent result
  | unevaluated
      {error : ConditionError}
      {result : Execution × Flow}
      (broken : execution.conditionsOf parent = .error error) :
      Hindered execution parent result
  | unresolved
      {missing : MissingInput}
      {result : Execution × Flow}
      (met : execution.conditionsOf parent = .ok true)
      (unresolved : parent.resolveInput execution.context = .error missing) :
      Hindered execution parent result

/-- A turn does not fan out a parallel step, for a reason.  No handler is called, and no
other step leaves a record. -/
structure Withholds
    (execution : Execution)
    (parent : Step)
    (history : History)
    (result : Execution × Flow) : Prop where
  hindered : execution.Hindered parent result
  invocations_eq_nil : history.invocations = []
  own : ∀ record ∈ history.attempts, record.stepId = parent.id

/-- Only the context matters, and what is called and recorded. -/
theorem Withholds.of_same
    {execution other : Execution}
    {rest : History}
    (withholds : execution.Withholds step history result)
    (context : other.context = execution.context)
    (invocations : rest.invocations = history.invocations)
    (attempts : rest.attempts = history.attempts) :
    other.Withholds step rest result where
  hindered := by
    have conditions : other.conditionsOf step = execution.conditionsOf step := by
      unfold conditionsOf
      rw [context]
    cases withholds.hindered with
    | halted halts => exact .halted halts
    | late => exact .late
    | unmet refused => exact .unmet (conditions.trans refused)
    | unevaluated broken => exact .unevaluated (conditions.trans broken)
    | unresolved met unresolved =>
      rw [← context] at unresolved
      exact .unresolved (conditions.trans met) unresolved
  invocations_eq_nil := invocations.trans withholds.invocations_eq_nil
  own := by
    rw [attempts]
    exact withholds.own

/-- Only the environment, the context and the steps matter, and what is called and
recorded. -/
theorem FansOut.of_same
    {execution other : Execution}
    {branches : List Branch}
    {rest : History}
    {flow : Flow}
    (fansOut : execution.FansOut step branches history flow)
    (environment : other.environment = execution.environment)
    (context : other.context = execution.context)
    (schedule : other.schedule = execution.schedule)
    (invocations : rest.invocations = history.invocations)
    (attempts : rest.attempts = history.attempts) :
    other.FansOut step branches rest flow where
  fanned := by
    rw [environment, context, schedule, invocations]
    exact fansOut.fanned
  recorded := by
    rw [attempts]
    exact fansOut.recorded

/-- The first attempt at a parallel step fans out. -/
theorem Tried.fans
    {outcome : Option Outcome}
    (tried : Tried step input before history after outcome)
    (parallel : step.type = .parallel) :
    ∃ fanning branches,
      FannedOut before.environment before.context (before.schedule.branches step)
        fanning branches ∧
      history.invocations = fanning.invocations ∧
      history.attempts.map StepRecord.stepId =
        if outcome.isSome then Branch.ranIds branches else [] := by
  cases tried with
  | attempted single => exact (single parallel).elim
  | overrun _ fanned =>
    refine ⟨_, _, fanned, ?_, ?_⟩
    · simp [Exchange.invocation?]
    · simp [fanned.attempts_eq_nil, Request.attempt?]
  | fanned _ fanned settled =>
    refine ⟨_, _, fanned, ?_, ?_⟩
    · simp [Exchange.invocation?, settled.invocations_eq_nil]
    · simp [fanned.attempts_eq_nil, Request.attempt?, settled.attempts.1]

/-- The failure of a parallel step is not followed by anything in its turn, and it is
not for want of time. -/
theorem Rejected.silent
    {outcome : Outcome}
    {condition : Option ConditionError}
    (rejected : Rejected step input outcome condition before history result)
    (parallel : step.type = .parallel) :
    history = [] ∧ ¬ result.2.IsTimedOut := by
  cases rejected with
  | repeated reaction =>
    have again := (Step.reaction_eq_retry_iff.mp reaction).2
    exact (Step.type_ne_parallel_of_effectiveAction again parallel).elim
  | _ => exact ⟨rfl, id⟩

/-- Where there is no first attempt, a parallel step leaves its own record. -/
theorem Written.own_untried
    {startedAt : Timestamp}
    {outcome : Outcome}
    {condition : Option ConditionError}
    {middle : Execution}
    {writing rest : History}
    (written : Written step [] startedAt 0 outcome before writing middle)
    (rejected : Rejected step [] outcome condition middle rest result)
    (parallel : step.type = .parallel) :
    History.invocations (⟨.now, startedAt⟩ :: writing ++ rest) = [] ∧
      ∀ record ∈ History.attempts (⟨.now, startedAt⟩ :: writing ++ rest),
        record.stepId = step.id := by
  obtain ⟨rfl, -⟩ := rejected.silent parallel
  refine ⟨written.invocations_untried [], ?_⟩
  obtain ⟨record, same, attempt⟩ := written.exists_attempt
  have only : History.attempts (⟨.now, startedAt⟩ :: writing ++ []) = [record] := by
    rw [List.append_nil]
    exact same
  rw [only, List.forall_mem_singleton]
  exact attempt.stepId

/-- What the first attempt at a parallel step calls, and what is recorded with it. -/
theorem Written.fans
    {startedAt : Timestamp}
    {outcome : Outcome}
    {result : Option Outcome}
    {middle : Execution}
    {trying writing : History}
    (written : Written step input startedAt 0 outcome middle writing after)
    (tried : Tried step input before trying middle result)
    (parallel : step.type = .parallel)
    (clock : Span) :
    ∃ fanning branches,
      FannedOut before.environment before.context (before.schedule.branches step)
        fanning branches ∧
      History.invocations (⟨.clock, clock⟩ :: ⟨.now, startedAt⟩ :: trying ++ writing) =
        fanning.invocations ∧
      (History.attempts (⟨.clock, clock⟩ :: ⟨.now, startedAt⟩ :: trying ++ writing)).map
          StepRecord.stepId =
        (if result.isSome then Branch.ranIds branches else []) ++ [step.id] := by
  obtain ⟨fanning, branches, fanned, calls, records⟩ := tried.fans parallel
  obtain ⟨record, attempt, same⟩ := written.attempts_tried clock trying
  refine ⟨fanning, branches, fanned, ?_, ?_⟩
  · rw [written.invocations_tried, calls]
  · rw [same, List.map_append, records, List.map_singleton, attempt.stepId]

/-- A parallel step that is performed fans out, unless its time is up at once. -/
theorem Performed.fansOut
    (performed : Performed step input before history result)
    (parallel : step.type = .parallel) :
    (∀ last, before.Withholds step history (last, result.2)) ∨
      ∃ branches, before.FansOut step branches history result.2 := by
  cases performed with
  | late => exact .inl fun _ => ⟨.late, rfl, by simp [Request.attempt?]⟩
  | @interrupted clock _ _ _ _ _ _ tried written =>
    obtain ⟨fanning, branches, fanned, calls, records⟩ := written.fans tried parallel clock
    exact .inr ⟨branches, ⟨fanning, fanned, calls⟩, .inl ⟨trivial, records⟩⟩
  | @succeeded clock _ _ _ _ _ _ tried written =>
    obtain ⟨fanning, branches, fanned, calls, records⟩ := written.fans tried parallel clock
    exact .inr ⟨branches, ⟨fanning, fanned, calls⟩, .inr ⟨(flow_succeed _ _ _).2, records⟩⟩
  | @failed clock _ _ _ _ _ _ _ _ tried written _ rejected =>
    obtain ⟨fanning, branches, fanned, calls, records⟩ := written.fans tried parallel clock
    obtain ⟨rfl, timely⟩ := rejected.silent parallel
    rw [List.append_nil]
    exact .inr ⟨branches, ⟨fanning, fanned, calls⟩, .inr ⟨timely, records⟩⟩

/-- The visit of a parallel step fans it out, unless its conditions or its input do not
allow that.  What the execution becomes behind the visit does not matter. -/
theorem Visited.fansOut
    (visited : Visited step before history result)
    (parallel : step.type = .parallel) :
    (∀ last, before.Withholds step history (last, result.2)) ∨
      ∃ branches, before.FansOut step branches history result.2 := by
  cases visited with
  | skipped refused => exact .inl fun _ => ⟨.unmet refused, rfl, by simp⟩
  | unevaluated broken written rejected =>
    obtain ⟨silent, own⟩ := written.own_untried rejected parallel
    exact .inl fun _ => ⟨.unevaluated broken, silent, own⟩
  | unresolved met unresolved written rejected =>
    obtain ⟨silent, own⟩ := written.own_untried rejected parallel
    exact .inl fun _ => ⟨.unresolved met unresolved, silent, own⟩
  | performed _ _ performed => exact performed.fansOut parallel

/-- A turn with a parallel step under the cursor fans it out, or there is a reason why it
does not. -/
theorem Acted.fansOut
    (acted : Acted before history result)
    (current : before.schedule.current? = some step)
    (parallel : step.type = .parallel) :
    before.Withholds step history result ∨
      ∃ branches, before.FansOut step branches history result.2 := by
  cases acted with
  | idle kept halts =>
    exact .inl ⟨.halted halts, kept.invocations_eq_nil, by simp [kept.attempts_eq_nil]⟩
  | exhausted _ behind => cases current.symm.trans behind
  | late kept => exact .inl ⟨.late, kept.invocations_eq_nil, by simp [kept.attempts_eq_nil]⟩
  | @visited other opening visit closing _ _ _ opened under visited _ synced =>
    obtain rfl := Option.some.inj (current.symm.trans under)
    have calls : History.invocations (opening ++ visit ++ closing) = visit.invocations := by
      simp [opened.invocations_eq_nil, synced.invocations_eq_nil]
    have records : History.attempts (opening ++ visit ++ closing) = visit.attempts := by
      simp [opened.attempts_eq_nil, synced.attempts_eq_nil]
    rcases visited.fansOut parallel with withholds | ⟨branches, fansOut⟩
    · exact .inl ((withholds _).of_same opened.context.symm calls records)
    · exact .inr ⟨branches, fansOut.of_same opened.environment.symm opened.context.symm
        opened.schedule.symm calls records⟩

end

end Execution
end WorkflowEngine
