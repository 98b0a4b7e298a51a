import WorkflowEngine.Proofs.Run

/-!
# Counting attempts

An execution counts its attempts and its retries while it adds them to the trail, and
its last record carries both counts.  They are those of the trail.
-/

namespace WorkflowEngine
namespace Execution

/-! ## What moves an execution on -/

section

variable (execution : Execution) (step : Step) (outcome : Outcome)

/-- To go to a step changes nothing but the schedule. -/
theorem exists_route_eq (target : String) :
    ∃ schedule, execution.route target = { execution with schedule } := by
  unfold route
  split
  · split <;> exact ⟨_, rfl⟩
  · exact ⟨_, rfl⟩

/-- Success changes nothing but the data and the schedule. -/
theorem exists_succeed_eq :
    ∃ context schedule,
      (execution.succeed step outcome).1 = { execution with context, schedule } := by
  unfold succeed
  dsimp only
  split
  · exact ⟨_, _, rfl⟩
  · split
    next target _ =>
      obtain ⟨schedule, routed⟩ := exists_route_eq _ target
      exact ⟨_, schedule, routed⟩
    next => exact ⟨_, _, rfl⟩

/-- A settled branch changes nothing but the data and the schedule. -/
theorem exists_settleBranch_eq :
    ∃ context schedule,
      execution.settleBranch step outcome = { execution with context, schedule } := by
  unfold settleBranch
  split <;> exact ⟨_, _, rfl⟩

end

/-- The counts of an execution go up by what is added to the trail. -/
structure Counted (before : Execution) (history : History) (after : Execution) : Prop where
  attempts : after.attempts = before.attempts + history.attempts.length
  retries : after.retries =
    before.retries + history.attempts.countP fun record => 0 < record.retryCount

namespace Counted

variable {before middle after other : Execution} {history first rest : History}

/-- Where no attempt is recorded and none is counted, the counts agree. -/
theorem of_silent
    (attempts : after.attempts = before.attempts)
    (retries : after.retries = before.retries)
    (silent : history.attempts = []) :
    Counted before history after where
  attempts := by rw [attempts, silent, List.length_nil, Nat.add_zero]
  retries := by rw [retries, silent, List.countP_nil, Nat.add_zero]

/-- Counts that agree with one history and then with the next agree with both in a row. -/
theorem trans
    (begun : Counted before first middle)
    (continued : Counted middle rest after) :
    Counted before (first ++ rest) after where
  attempts := by
    rw [continued.attempts, begun.attempts, History.attempts_append, List.length_append,
      Nat.add_assoc]
  retries := by
    rw [continued.retries, begun.retries, History.attempts_append, List.countP_append,
      Nat.add_assoc]

/-- An exchange that records no attempt may be put in front. -/
theorem cons
    {exchange : Exchange}
    (counted : Counted before history after)
    (silent : exchange.request.attempt? = none) :
    Counted before (exchange :: history) after :=
  (of_silent rfl rfl (by simp [silent]) : Counted before [exchange] before).trans counted

/-- Only the two counts of an execution matter. -/
theorem of_same
    (counted : Counted before history after)
    (attempts : other.attempts = after.attempts)
    (retries : other.retries = after.retries) :
    Counted before history other where
  attempts := attempts.trans counted.attempts
  retries := retries.trans counted.retries

/-- What follows a success is not counted. -/
theorem succeed
    (counted : Counted before history after)
    (step : Step)
    (outcome : Outcome) :
    Counted before history (after.succeed step outcome).1 := by
  obtain ⟨context, schedule, same⟩ := after.exists_succeed_eq step outcome
  rw [same]
  exact counted.of_same rfl rfl

end Counted

/-! ## Visits -/

section

variable
  {step : Step}
  {input : Object}
  {before after : Execution}
  {history : History}
  {result : Execution × Flow}

/-- A first attempt is counted once, and as no retry. -/
theorem Written.counted
    {startedAt : Timestamp}
    {outcome : Outcome}
    (written : Written step input startedAt 0 outcome before history after) :
    Counted before history after := by
  obtain ⟨completedAt, usage, same⟩ := written.attempts
  obtain ⟨monitor, rfl⟩ := written.after_eq
  constructor <;> rw [same] <;> rfl

/-- A retry is counted before it is written. -/
theorem Written.counted_retry
    {startedAt : Timestamp}
    {number : Nat}
    {outcome : Outcome}
    (written : Written step input startedAt number outcome
      { before with retries := before.retries + 1 } history after)
    (repeated : 0 < number) :
    Counted before history after := by
  obtain ⟨completedAt, usage, same⟩ := written.attempts
  obtain ⟨monitor, rfl⟩ := written.after_eq
  constructor
  · rw [same]
    rfl
  · simp [same, attemptRecord, repeated]

/-- Attempts with numbers from one are counted as attempts and as retries. -/
theorem WrittenAll.counted
    {attempts : List Attempt}
    (written : WrittenAll step input attempts before history after)
    (repeated : ∀ attempt ∈ attempts, 0 < attempt.number) :
    Counted before history after := by
  induction written with
  | nil => exact .of_silent rfl rfl rfl
  | cons written _ inductionHypothesis =>
    obtain ⟨first, others⟩ := List.forall_mem_cons.mp repeated
    exact (written.counted_retry first).trans (inductionHypothesis others)

/-- Every retry of a series is counted, be it the last one or not. -/
theorem TriedAgain.counted
    {first : Outcome}
    {clock : Span}
    {calls writes : History}
    {retried : Retried}
    (again : TriedAgain step input first before clock calls writes retried after) :
    Counted before (⟨.clock, clock⟩ :: calls ++ writes) after := by
  have called : Counted before (⟨.clock, clock⟩ :: calls) before :=
    .of_silent rfl rfl again.retries.attempts_eq_nil
  refine called.trans (again.written.counted fun attempt member => ?_)
  have listed := List.mem_map_of_mem (f := Attempt.number) member
  rw [again.retries.numbered.1, List.mem_range'_1] at listed
  exact listed.1

/-- Branches are counted as first attempts, one each. -/
theorem Settled.counted
    {branches : List Branch}
    {settlement final : Settlement}
    (settled : Settled branches settlement before history after final) :
    Counted before history after := by
  induction settled with
  | nil => exact .of_silent rfl rfl rfl
  | skipped _ inductionHypothesis =>
    exact ⟨inductionHypothesis.attempts, inductionHypothesis.retries⟩
  | @ran step _ _ outcome _ _ _ _ middle _ _ _ written _ inductionHypothesis =>
    obtain ⟨context, schedule, same⟩ := middle.exists_settleBranch_eq step outcome
    rw [same] at inductionHypothesis
    exact written.counted.trans ⟨inductionHypothesis.attempts, inductionHypothesis.retries⟩

/-- A first attempt is counted when it is written, and a fan-out with its branches. -/
theorem Tried.counted
    {outcome : Option Outcome}
    (tried : Tried step input before history after outcome) :
    Counted before history after := by
  cases tried with
  | attempted _ attempted => exact .of_silent rfl rfl attempted.attempts_eq_nil
  | overrun _ fanned =>
    refine .of_silent rfl rfl ?_
    rw [History.attempts_append, fanned.attempts_eq_nil]
    rfl
  | fanned _ fanned settled =>
    have called : Counted before _ before := .of_silent rfl rfl fanned.attempts_eq_nil
    exact called.trans (settled.counted.cons rfl)

/-- A series of retries is counted whether it succeeds, runs out or is cut short by the
clock. -/
theorem Repeated.counted
    {first : Outcome}
    (repeated : Repeated step input first before history result) :
    Counted before history result.1 := by
  cases repeated with
  | late => exact .of_silent rfl rfl rfl
  | cut again => exact again.counted.of_same rfl rfl
  | succeeded again => exact again.counted.succeed step _
  | failed again => exact again.counted.of_same rfl rfl

/-- Only the reaction to try again adds to the counts. -/
theorem Rejected.counted
    {outcome : Outcome}
    {condition : Option ConditionError}
    (rejected : Rejected step input outcome condition before history result) :
    Counted before history result.1 := by
  cases rejected with
  | repeated _ _ repeated => exact repeated.counted
  | _ => exact .of_silent rfl rfl rfl

/-- A step that is performed is counted with all its retries. -/
theorem Performed.counted
    (performed : Performed step input before history result) :
    Counted before history result.1 := by
  have begun
      {clock : Span}
      {startedAt : Timestamp}
      {trying writing : History}
      {middle after : Execution}
      {tried : Option Outcome}
      {outcome : Outcome}
      (tried : Tried step input before trying middle tried)
      (written : Written step input startedAt 0 outcome middle writing after) :
      Counted before (⟨.clock, clock⟩ :: ⟨.now, startedAt⟩ :: trying ++ writing) after :=
    ((tried.counted.cons rfl).cons rfl).trans written.counted
  cases performed with
  | late => exact .of_silent rfl rfl rfl
  | interrupted tried written => exact (begun tried written).of_same rfl rfl
  | succeeded tried written => exact (begun tried written).succeed step _
  | failed tried written _ rejected => exact (begun tried written).trans rejected.counted

/-- A visit counts what it records; one that is skipped counts nothing. -/
theorem Visited.counted
    (visited : Visited step before history result) :
    Counted before history result.1 := by
  cases visited with
  | skipped => exact .of_silent rfl rfl rfl
  | unevaluated _ written rejected => exact (written.counted.cons rfl).trans rejected.counted
  | unresolved _ _ written rejected => exact (written.counted.cons rfl).trans rejected.counted
  | performed _ _ performed => exact performed.counted

end

/-! ## Turns and runs -/

section

variable
  {environment : Environment}
  {workflow : Workflow}
  {call : Call}
  {before after : Execution}
  {history : History}

/-- What surrounds a visit is not counted. -/
theorem Steady.counted (steady : Steady before history after) : Counted before history after := by
  refine .of_silent ?_ ?_ steady.toKept.attempts_eq_nil <;>
    obtain ⟨_, _, _, rfl⟩ := steady.after_eq <;> rfl

/-- A turn counts what it records. -/
theorem Spent.counted
    {result : Execution × Flow}
    (spent : Spent before history result) :
    Counted before history result.1 := by
  have looked (execution : Execution) (clock : Span) :
      Counted execution [⟨.clock, clock⟩] execution :=
    .of_silent rfl rfl rfl
  cases spent with
  | idle steady => exact steady.counted
  | exhausted steady => exact steady.counted
  | late steady => exact steady.counted.trans (looked _ _)
  | visited opened _ _ ends synced =>
    have performed := (visited_of_ends ends).counted
    exact ((opened.counted.trans (looked _ _)).trans performed).trans synced.counted

/-- Nothing is counted when an execution begins. -/
theorem counts_of_ends_start
    {execution : Execution}
    (ends : (start environment workflow call).Ends history (.turn execution)) :
    execution.attempts = 0 ∧ execution.retries = 0 := by
  obtain ⟨_, _, _, _, steady⟩ := (ends_start ends).2 execution rfl
  obtain ⟨_, _, _, rfl⟩ := steady.after_eq
  exact ⟨rfl, rfl⟩

/-- Between any two turns the counts are those of the trail. -/
theorem Run.counts
    {execution : Execution}
    (run : Run environment workflow call history (.done (.turn execution))) :
    execution.attempts = history.attempts.length ∧
      execution.retries = history.attempts.countP fun record => 0 < record.retryCount := by
  apply run.invariant_of_ends
  · intro history execution begun
    rw [(started_of_ends begun).attempts_eq_nil]
    exact counts_of_ends_start begun
  · rintro past history execution after - ⟨attempts, retries⟩ acted
    have counted := (spent_of_ends acted).counted
    rw [History.attempts_append, List.length_append, List.countP_append, ← attempts, ← retries]
    exact ⟨counted.attempts, counted.retries⟩

end

/-! ## Metrics -/

/-- The closing record bears the metrics of the execution as it ends. -/
@[simp] theorem metrics_closingRecord
    (execution : Execution) (ending : Ending) (now : Timestamp) :
    (execution.closingRecord ending now).metrics = execution.metrics := by
  unfold closingRecord
  dsimp only
  split <;> rfl

/-- The metrics tell the two counts under their names. -/
theorem find?_metrics (execution : Execution) :
    Dict.find? "attempts" execution.metrics = some (.ofNat execution.attempts) ∧
      Dict.find? "retries" execution.metrics = some (.ofNat execution.retries) := by
  have layered : execution.metrics =
      Dict.insert "peakMemoryMb" (.ofNat execution.monitor.peakMemoryMb)
        (Dict.insert "averageCpu" (.ofFloat execution.monitor.averageCpu.toFloat)
          (Dict.insert "retries" (.ofNat execution.retries)
            (Dict.insert "attempts" (.ofNat execution.attempts) execution.record.metrics))) := rfl
  constructor
  · rw [layered, Dict.find?_insert_of_ne (by decide), Dict.find?_insert_of_ne (by decide),
      Dict.find?_insert_of_ne (by decide), Dict.find?_insert_self]
  · rw [layered, Dict.find?_insert_of_ne (by decide), Dict.find?_insert_of_ne (by decide),
      Dict.find?_insert_self]

/-- The end is announced without a look at the clock. -/
theorem clocks_of_ends_announceEnd
    {execution : Execution}
    {status : ExecutionStatus}
    {history : History}
    (ends : (execution.announceEnd status).Ends history ()) :
    history.clocks = [] := by
  unfold announceEnd at ends
  split at ends
  · obtain ⟨⟨⟩, _, rfl, finished⟩ := Program.Ends.of_request ends
    obtain ⟨rfl, -⟩ := finished.of_done
    rfl
  · obtain ⟨rfl, -⟩ := ends.of_done
    rfl

/-- To close an execution takes no look at the clock.  The last record has its metrics. -/
theorem ends_finalize
    {last : Execution}
    {ending : Ending}
    {history : History}
    {record : ExecutionRecord}
    (ends : (last.finalize ending).Ends history record) :
    history.clocks = [] ∧ record.metrics = (last.settled ending).metrics := by
  obtain ⟨now, later, stored, announced, rfl, rfl, announces⟩ := finalized_of_ends ends
  refine ⟨?_, metrics_closingRecord _ ending now⟩
  simp [Exchange.clock?, clocks_of_ends_announceEnd announces]

/-- Neither count changes when the schedule is settled at the end. -/
theorem counts_settled (execution : Execution) (ending : Ending) :
    (execution.settled ending).attempts = execution.attempts ∧
      (execution.settled ending).retries = execution.retries := by
  unfold settled
  split <;> exact ⟨rfl, rfl⟩

/-- The metrics at the end of a run count the attempts on its trail, and those of them
that are retries. -/
theorem Run.metrics
    {environment : Environment}
    {workflow : Workflow}
    {call : Call}
    {history : History}
    {record : ExecutionRecord}
    (run : Run environment workflow call history (.done (.ended record))) :
    Dict.find? "attempts" record.metrics = some (.ofNat history.attempts.length) ∧
      Dict.find? "retries" record.metrics =
        some (.ofNat (history.attempts.countP fun attempt => 0 < attempt.retryCount)) := by
  obtain ⟨past, execution, acting, last, ending, closing, rfl, begun, acted, ends⟩ := run.last_turn
  obtain ⟨attempts, retries⟩ := begun.counts
  have counted := (spent_of_ends acted).counted
  obtain ⟨found, repeated⟩ := (last.settled ending).find?_metrics
  obtain ⟨kept, keptToo⟩ := last.counts_settled ending
  rw [kept, counted.attempts, attempts] at found
  rw [keptToo, counted.retries, retries] at repeated
  rw [(ends_finalize ends).2, found, repeated, History.attempts_append,
    (closed_of_ends ends).attempts_eq_nil, List.append_nil, History.attempts_append,
    List.length_append, List.countP_append]
  exact ⟨rfl, rfl⟩

end Execution
end WorkflowEngine
