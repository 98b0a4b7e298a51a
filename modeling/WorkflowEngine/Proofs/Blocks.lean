import WorkflowEngine.Proofs.Reaction
import WorkflowEngine.Proofs.ExecutionTurn

/-!
# The records of a visit

What the visit of a step leaves on the trail.  For a step that is not parallel that is
its first attempt with the retries behind it.  For a parallel step it is the attempts at
its branches with the whole behind them.
-/

namespace WorkflowEngine

/-- A record is that of an attempt at a step. -/
structure StepRecord.IsAttempt
    (record : StepRecord)
    (step : Step)
    (number : Nat)
    (outcome : Outcome) : Prop where
  stepId : record.stepId = step.id
  stepType : record.stepType = step.type
  retryCount : record.retryCount = number
  status : record.status = if outcome.succeeded then .completed else .failed

/-- The records that one visit of a step leaves on the trail. -/
inductive Block (environment : Environment) (workflow : Workflow) (step : Step) :
    List StepRecord → Prop
  /-- A first attempt, and retries only if it has failed and is to be tried again.  They
  are numbered in turn, and all but the last have failed. -/
  | single
      {first : StepRecord}
      {retries : List StepRecord}
      (single : step.type ≠ .parallel)
      (own : ∀ record ∈ first :: retries, record.stepId = step.id ∧ record.stepType = step.type)
      (numbered : (first :: retries).map StepRecord.retryCount = List.range (retries.length + 1))
      (failed : ∀ record ∈ (first :: retries).dropLast, record.status = .failed)
      (repeated : retries ≠ [] → step.effectiveAction workflow.policy.onFailure = .retry)
      (bounded : retries.length ≤ (RetryPolicy.ofStep step environment.settings).maxRetries) :
      Block environment workflow step (first :: retries)
  /-- Branches in the order in which they are listed, and then the parallel step as a
  whole. -/
  | parallel
      {branches : List StepRecord}
      {whole : StepRecord}
      (parallel : step.type = .parallel)
      (listed : (branches.map StepRecord.stepId).Sublist step.subSteps)
      (own : whole.stepId = step.id ∧ whole.stepType = step.type)
      (unrepeated : ∀ record ∈ branches ++ [whole], record.retryCount = 0) :
      Block environment workflow step (branches ++ [whole])

/-- The records of the retries of a step. -/
structure AreRetries
    (environment : Environment)
    (step : Step)
    (records : List StepRecord) : Prop where
  own : ∀ record ∈ records, record.stepId = step.id ∧ record.stepType = step.type
  numbered : records.map StepRecord.retryCount = List.range' 1 records.length
  failed : ∀ record ∈ records.dropLast, record.status = .failed
  bounded : records.length ≤ (RetryPolicy.ofStep step environment.settings).maxRetries

theorem AreRetries.nil (environment : Environment) (step : Step) :
    AreRetries environment step [] where
  own := by simp
  numbered := rfl
  failed := by simp
  bounded := Nat.zero_le _

/-- The records of the branches of a step, which has none unless it is parallel. -/
structure AreBranches (step : Step) (records : List StepRecord) : Prop where
  parallel : records ≠ [] → step.type = .parallel
  listed : (records.map StepRecord.stepId).Sublist step.subSteps
  unrepeated : ∀ record ∈ records, record.retryCount = 0

theorem AreBranches.nil (step : Step) : AreBranches step [] where
  parallel some := (some rfl).elim
  listed := List.nil_sublist _
  unrepeated := by simp

/-- Branches, the attempt at the step, and its retries make up a block. -/
theorem Block.of_parts
    {environment : Environment}
    {workflow : Workflow}
    {step : Step}
    {outcome : Outcome}
    {first : StepRecord}
    {branches retries : List StepRecord}
    (attempt : first.IsAttempt step 0 outcome)
    (fanned : AreBranches step branches)
    (repeated : AreRetries environment step retries)
    (followed : retries ≠ [] → outcome.succeeded = false ∧
      step.effectiveAction workflow.policy.onFailure = .retry) :
    Block environment workflow step (branches ++ [first] ++ retries) := by
  by_cases parallel : step.type = .parallel
  · -- A parallel step is never tried again.
    obtain rfl : retries = [] := by
      by_contra some
      exact Step.type_ne_parallel_of_effectiveAction (followed some).2 parallel
    rw [List.append_nil]
    refine .parallel parallel fanned.listed ⟨attempt.stepId, attempt.stepType⟩ ?_
    rw [List.forall_mem_append, List.forall_mem_singleton]
    exact ⟨fanned.unrepeated, attempt.retryCount⟩
  · obtain rfl : branches = [] := by
      by_contra some
      exact parallel (fanned.parallel some)
    rw [List.nil_append, List.singleton_append]
    refine .single parallel ?_ ?_ ?_ (fun some => (followed some).2) repeated.bounded
    · exact List.forall_mem_cons.mpr ⟨⟨attempt.stepId, attempt.stepType⟩, repeated.own⟩
    · rw [List.map_cons, attempt.retryCount, repeated.numbered, List.range_eq_range']
      rfl
    · cases retries with
      | nil => simp
      | cons second others =>
        have failure := (followed (List.cons_ne_nil _ _)).1
        rw [List.dropLast_cons_cons, List.forall_mem_cons]
        refine ⟨?_, repeated.failed⟩
        rw [attempt.status, failure]
        rfl

/-- The records of further attempts at a step. -/
structure AreAttempts (step : Step) (attempts : List Attempt) (records : List StepRecord) :
    Prop where
  own : ∀ record ∈ records, record.stepId = step.id ∧ record.stepType = step.type
  numbers : records.map StepRecord.retryCount = attempts.map Attempt.number
  statuses : records.map StepRecord.status =
    attempts.map fun attempt => if attempt.outcome.succeeded then .completed else .failed

namespace Execution

/-! ## Attempts -/

section

variable
  {step : Step}
  {input : Object}
  {before after : Execution}
  {history : History}
  {result : Execution × Flow}

theorem Written.exists_attempt
    {startedAt : Timestamp}
    {number : Nat}
    {outcome : Outcome}
    (written : Written step input startedAt number outcome before history after) :
    ∃ record, history.attempts = [record] ∧ record.IsAttempt step number outcome := by
  obtain ⟨completedAt, usage, same⟩ := written.attempts
  exact ⟨_, same, rfl, rfl, rfl, rfl⟩

/-- Further attempts are written as they were made. -/
theorem WrittenAll.areAttempts
    {attempts : List Attempt}
    (written : WrittenAll step input attempts before history after) :
    AreAttempts step attempts history.attempts := by
  induction written with
  | nil => exact ⟨by simp, rfl, rfl⟩
  | cons written _ inductionHypothesis =>
    obtain ⟨record, same, attempt⟩ := written.exists_attempt
    rw [History.attempts_append, same, List.singleton_append]
    refine ⟨List.forall_mem_cons.mpr ⟨⟨attempt.stepId, attempt.stepType⟩,
      inductionHypothesis.own⟩, ?_, ?_⟩
    · rw [List.map_cons, attempt.retryCount, inductionHypothesis.numbers, List.map_cons]
    · rw [List.map_cons, attempt.status, inductionHypothesis.statuses, List.map_cons]

/-- The retries of a step are written as they were made. -/
theorem TriedAgain.areRetries
    {first : Outcome}
    {clock : Span}
    {calls writes : History}
    {retried : Retried}
    (again : TriedAgain step input first before clock calls writes retried after) :
    AreRetries before.environment step (History.attempts (⟨.clock, clock⟩ :: calls ++ writes)) := by
  rw [again.attempts_eq]
  have written := again.written.areAttempts
  have length : retried.attempts.length = writes.attempts.length := by
    simpa using congrArg List.length written.numbers.symm
  obtain ⟨numbers, bounded⟩ := again.retries.numbered
  rw [length] at numbers bounded
  refine ⟨written.own, written.numbers.trans numbers, fun record member => ?_, bounded⟩
  -- The statuses of all records but the last are those of the attempts that failed.
  have listed := List.mem_map_of_mem (f := StepRecord.status) member
  rw [List.map_dropLast, written.statuses, ← List.map_dropLast] at listed
  obtain ⟨attempt, made, status⟩ := List.mem_map.mp listed
  rw [← status, again.retries.failed_of_mem_dropLast attempt made]
  rfl

theorem Rejected.areRetries
    {outcome : Outcome}
    {condition : Option ConditionError}
    (rejected : Rejected step input outcome condition before history result) :
    AreRetries before.environment step history.attempts ∧
      (history.attempts ≠ [] →
        step.effectiveAction before.workflow.policy.onFailure = .retry) := by
  cases rejected with
  | repeated reaction _ repeated =>
    refine ⟨?_, fun _ => (Step.reaction_eq_retry_iff.mp reaction).2⟩
    cases repeated with
    | late => exact .nil _ _
    | cut again => exact again.areRetries
    | succeeded again => exact again.areRetries
    | failed again => exact again.areRetries
  | _ => exact ⟨.nil _ _, fun some => (some rfl).elim⟩

/-- The branches of a parallel step are written in their order, less those that were
passed over. -/
theorem Settled.attempts
    {branches : List Branch}
    {settlement final : Settlement}
    (settled : Settled branches settlement before history after final) :
    history.attempts.map StepRecord.stepId = Branch.ranIds branches ∧
      ∀ record ∈ history.attempts, record.retryCount = 0 := by
  induction settled with
  | nil => exact ⟨rfl, by simp⟩
  | skipped _ inductionHypothesis => exact inductionHypothesis
  | ran written _ inductionHypothesis =>
    obtain ⟨record, same, attempt⟩ := written.exists_attempt
    obtain ⟨listed, unrepeated⟩ := inductionHypothesis
    rw [History.attempts_append, same, List.singleton_append, List.map_cons, attempt.stepId,
      listed]
    exact ⟨rfl, List.forall_mem_cons.mpr ⟨attempt.retryCount, unrepeated⟩⟩

theorem Tried.areBranches
    {outcome : Option Outcome}
    (tried : Tried step input before history after outcome) :
    AreBranches step history.attempts := by
  cases tried with
  | attempted _ attempted =>
    rw [attempted.attempts_eq_nil]
    exact .nil step
  | overrun _ fanned =>
    rw [History.attempts_append, fanned.attempts_eq_nil]
    exact .nil step
  | @fanned _ writes branches _ _ parallel fanned settled =>
    obtain ⟨written, unrepeated⟩ := settled.attempts
    have same : History.attempts (⟨.wait (Branch.longest branches).ticks, ()⟩ :: writes) =
        writes.attempts := rfl
    rw [History.attempts_append, fanned.attempts_eq_nil, List.nil_append, same]
    refine ⟨fun _ => parallel, ?_, unrepeated⟩
    rw [written]
    refine (Branch.ranIds_sublist branches).trans ?_
    rw [fanned.ids_eq]
    exact before.schedule.ids_branches_sublist step

/-! ## Visits -/

/-- An attempt is written behind whatever its own branches have written. -/
theorem Written.attempts_tried
    {startedAt : Timestamp}
    {outcome : Outcome}
    {middle : Execution}
    {writing : History}
    (written : Written step input startedAt 0 outcome middle writing after)
    (clock : Span)
    (trying : History) :
    ∃ record, record.IsAttempt step 0 outcome ∧
      History.attempts (⟨.clock, clock⟩ :: ⟨.now, startedAt⟩ :: trying ++ writing) =
        trying.attempts ++ [record] := by
  obtain ⟨record, same, attempt⟩ := written.exists_attempt
  refine ⟨record, attempt, ?_⟩
  rw [History.attempts_append, same]
  rfl

/-- Where there is no first attempt, a record is written all the same. -/
theorem Written.block_untried
    {startedAt : Timestamp}
    {outcome : Outcome}
    {condition : Option ConditionError}
    {middle : Execution}
    {writing rest : History}
    (written : Written step [] startedAt 0 outcome before writing middle)
    (failure : outcome.succeeded = false)
    (rejected : Rejected step [] outcome condition middle rest result) :
    Block before.environment before.workflow step
      (History.attempts (⟨.now, startedAt⟩ :: writing ++ rest)) := by
  obtain ⟨record, same, attempt⟩ := written.exists_attempt
  obtain ⟨retries, again⟩ := rejected.areRetries
  have first : History.attempts (⟨.now, startedAt⟩ :: writing) = [] ++ [record] := same
  rw [History.attempts_append, first, ← written.continues.environment,
    ← written.continues.workflow]
  exact .of_parts attempt (.nil step) retries fun some => ⟨failure, again some⟩

/-- An attempt that is not repeated makes up a block with its branches. -/
theorem Written.block_tried
    {startedAt : Timestamp}
    {tried : Option Outcome}
    {outcome : Outcome}
    {middle : Execution}
    {trying writing : History}
    (written : Written step input startedAt 0 outcome middle writing after)
    (tried : Tried step input before trying middle tried)
    (clock : Span) :
    Block before.environment before.workflow step
      (History.attempts (⟨.clock, clock⟩ :: ⟨.now, startedAt⟩ :: trying ++ writing)) := by
  obtain ⟨record, attempt, same⟩ := written.attempts_tried clock trying
  have block : Block before.environment before.workflow step (trying.attempts ++ [record] ++ []) :=
    .of_parts attempt tried.areBranches (.nil _ step) fun some => (some rfl).elim
  rwa [List.append_nil, ← same] at block

/-- A step that is performed leaves a block behind, unless its time is up at once. -/
theorem Performed.block
    (performed : Performed step input before history result) :
    (∃ clock, history = [⟨.clock, clock⟩]) ∨
      Block before.environment before.workflow step history.attempts := by
  cases performed with
  | late => exact .inl ⟨_, rfl⟩
  | interrupted tried written => exact .inr (written.block_tried tried _)
  | succeeded tried written => exact .inr (written.block_tried tried _)
  | @failed clock _ trying _ _ _ _ _ _ tried written failure rejected =>
    obtain ⟨record, attempt, same⟩ := written.attempts_tried clock trying
    obtain ⟨retries, again⟩ := rejected.areRetries
    have continued := tried.continues.trans written.continues
    rw [History.attempts_append, same, ← continued.environment, ← continued.workflow]
    exact .inr (.of_parts attempt tried.areBranches retries fun some => ⟨failure, again some⟩)

/-- A step is passed over if its conditions are false, or if its time is up at the look
at the clock before its dispatch. -/
def passesOver (execution : Execution) (step : Step) (clocks : List Span) : Bool :=
  match execution.conditionsOf step, step.resolveInput execution.context with
  | .ok false, _ => true
  | .ok true, .ok _ => clocks.head?.any fun clock => (execution.remaining? clock).isNone
  | _, _ => false

theorem ends_perform
    (ends : (before.perform step input).Ends history result) :
    ∃ (clock : Span) (rest : History), history = ⟨.clock, clock⟩ :: rest ∧
      (rest = [] ↔ before.remaining? clock = none) := by
  obtain ⟨clock, rest, rfl, timed⟩ := Program.Ends.of_request ends
  refine ⟨clock, rest, rfl, ?_⟩
  split at timed
  next expired =>
    obtain ⟨rfl, -⟩ := timed.of_done
    simp [expired]
  next remaining timely =>
    obtain ⟨startedAt, _, rfl, -⟩ := timed.of_request
    simp [timely]

/-- The visit of a step leaves a block behind, or nothing if the step is passed over. -/
theorem block_of_runStep
    (ends : (before.runStep step).Ends history result) :
    if before.passesOver step history.clocks then history.attempts = []
    else Block before.environment before.workflow step history.attempts := by
  unfold passesOver
  cases visited_of_ends ends with
  | skipped refused =>
    simp only [refused]
    rfl
  | unevaluated broken written rejected =>
    simp only [broken]
    exact written.block_untried rfl rejected
  | unresolved met unresolved written rejected =>
    simp only [met, unresolved]
    exact written.block_untried rfl rejected
  | performed met resolved performed =>
    unfold runStep at ends
    simp only [met, resolved] at ends ⊢
    obtain ⟨clock, rest, rfl, cut⟩ := ends_perform ends
    have looked : History.clocks (⟨.clock, clock⟩ :: rest) = clock :: rest.clocks := rfl
    rw [looked, List.head?_cons, Option.any_some]
    split
    next expired =>
      obtain rfl := cut.mpr (Option.isNone_iff_eq_none.mp expired)
      rfl
    next timely =>
      rcases performed.block with ⟨other, same⟩ | block
      · have expired := cut.mp (List.cons_eq_cons.mp same).2
        exact (timely (Option.isNone_iff_eq_none.mpr expired)).elim
      · exact block

end

end Execution
end WorkflowEngine
