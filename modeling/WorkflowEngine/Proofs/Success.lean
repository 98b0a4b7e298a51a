import WorkflowEngine.Proofs.FinishedWork

/-!
# Steps that succeed

The last record of a visit tells whether a step has succeeded, at once or when it was
tried again.  If it has, then the execution goes on with the outcome that the record
tells of.
-/

namespace WorkflowEngine

theorem StepRecord.TellsOf.succeeded
    {record : StepRecord}
    {work : Work}
    (tells : record.TellsOf work)
    (completed : record.status = .completed) :
    work.outcome.succeeded = true := by
  have status := tells.reports.status
  rw [completed] at status
  cases success : work.outcome.succeeded with
  | true => rfl
  | false => simp [success] at status

namespace Execution

/-- A step succeeds with some work that a record tells of, and the execution goes on as it
does after such an outcome. -/
structure Succeeds
    (before : Execution)
    (step : Step)
    (record : StepRecord)
    (work : Work)
    (result : Execution × Flow) : Prop where
  does : before.Does step work
  tells : record.TellsOf work
  goesOn : ∃ middle : Execution, middle.schedule = before.schedule ∧
    result.1.schedule = (middle.succeed step work.outcome).1.schedule ∧
    result.2 = (middle.succeed step work.outcome).2

theorem Succeeds.of_same
    {before other : Execution}
    {step : Step}
    {record : StepRecord}
    {work : Work}
    {result final : Execution × Flow}
    (succeeds : before.Succeeds step record work result)
    (environment : other.environment = before.environment)
    (context : other.context = before.context)
    (schedule : other.schedule = before.schedule)
    (cursor : final.1.schedule = result.1.schedule)
    (flow : final.2 = result.2) :
    other.Succeeds step record work final where
  does := succeeds.does.of_same environment context schedule
  tells := succeeds.tells
  goesOn := by
    rw [schedule, cursor, flow]
    exact succeeds.goesOn

/-! ## Last records -/

section

variable
  {step : Step}
  {input : Object}
  {startedAt : Timestamp}
  {number : Nat}
  {outcome : Outcome}
  {before middle after : Execution}
  {history writing : History}
  {record : StepRecord}

/-- The last record behind an attempt is the one that was written. -/
theorem Written.tells_last
    (written : Written step input startedAt number outcome before writing after)
    (context : Context)
    (last : (History.attempts (history ++ writing)).getLast? = some record) :
    record.TellsOf ⟨⟨step, input, context⟩, outcome⟩ := by
  obtain ⟨completedAt, usage, same⟩ := written.attempts
  rw [History.attempts_append, same, List.getLast?_concat] at last
  obtain rfl := Option.some.inj last
  exact ⟨rfl, rfl, rfl, reports_attemptRecord _ _ _⟩

/-- The last record behind further attempts tells of the last one. -/
theorem WrittenAll.tells_last
    {attempts : List Attempt}
    (written : WrittenAll step input attempts before history after)
    (context : Context)
    (last : history.attempts.getLast? = some record) :
    ∃ attempt, attempts.getLast? = some attempt ∧
      record.TellsOf ⟨⟨step, input, context⟩, attempt.outcome⟩ := by
  rcases List.eq_nil_or_concat attempts with rfl | ⟨first, attempt, rfl⟩
  · cases written
    cases last
  · rw [List.concat_eq_append] at written ⊢
    obtain ⟨_, _, _, rfl, -, final⟩ := written.of_append
    cases final with
    | cons written others =>
      cases others
      rw [List.append_nil] at last
      exact ⟨attempt, List.getLast?_concat, written.tells_last context last⟩

/-- Where the last record is that of a success, a retry has succeeded, and the retries as a
whole have its outcome. -/
theorem TriedAgain.succeeds
    {clock : Span}
    {calls : History}
    {retried : Retried}
    (again : TriedAgain step input outcome before clock calls writing retried after)
    (last : (History.attempts (⟨.clock, clock⟩ :: calls ++ writing)).getLast? = some record)
    (completed : record.status = .completed) :
    ∃ attempt ∈ retried.attempts, retried.outcome = some attempt.outcome ∧
      record.TellsOf ⟨⟨step, input, before.context⟩, attempt.outcome⟩ := by
  rw [again.attempts_eq] at last
  obtain ⟨attempt, final, tells⟩ := again.written.tells_last before.context last
  have member := List.mem_of_getLast? final
  have success : attempt.outcome.succeeded = true := tells.succeeded completed
  refine ⟨attempt, member, ?_, tells⟩
  rcases again.retries.attempts_cases with
    ⟨failures, -⟩ | ⟨failures, closing, attempts, -, -, closed⟩
  · rw [failures attempt member] at success
    cases success
  · rw [attempts, List.getLast?_concat] at final
    obtain rfl := Option.some.inj final
    exact closed

end

/-! ## Visits -/

section

variable
  {step : Step}
  {input : Object}
  {before : Execution}
  {history : History}
  {record : StepRecord}
  {result : Execution × Flow}

theorem Repeated.succeeds
    {first : Outcome}
    (repeated : Repeated step input first before history result)
    (dispatches : before.Dispatches step ⟨step, input, before.context⟩)
    (last : history.attempts.getLast? = some record)
    (completed : record.status = .completed) :
    ∃ work, before.Succeeds step record work result := by
  cases repeated with
  | late => cases last
  | cut again unfinished =>
    obtain ⟨attempt, -, closed, -⟩ := again.succeeds last completed
    rw [unfinished] at closed
    cases closed
  | succeeded again closed success =>
    obtain ⟨attempt, member, final, tells⟩ := again.succeeds last completed
    obtain rfl := Option.some.inj (closed.symm.trans final)
    exact ⟨_, ⟨dispatches, again.retries.attempted_of_mem attempt member⟩, tells,
      _, again.written.schedule_eq, rfl, rfl⟩
  | failed again closed failure =>
    obtain ⟨attempt, -, final, tells⟩ := again.succeeds last completed
    obtain rfl := Option.some.inj (closed.symm.trans final)
    cases failure.symm.trans (tells.succeeded completed)

/-- Only retries leave records behind the failure of a step. -/
theorem Rejected.repeated_of_attempts
    {outcome : Outcome}
    {condition : Option ConditionError}
    (rejected : Rejected step input outcome condition before history result)
    (some : history.attempts ≠ []) :
    condition = none ∧ reactionTo step before outcome = .retry ∧
      Repeated step input outcome before history result := by
  cases rejected with
  | repeated reaction met repeated => exact ⟨met, reaction, repeated⟩
  | _ => exact (some rfl).elim

/-- A success behind a failed attempt is that of a retry. -/
theorem Rejected.succeeds
    {startedAt : Timestamp}
    {outcome : Outcome}
    {condition : Option ConditionError}
    {begun : Execution}
    {writing : History}
    (rejected : Rejected step input outcome condition before history result)
    (written : Written step input startedAt 0 outcome begun writing before)
    (failure : outcome.succeeded = false)
    (dispatches : condition = none → step.type ≠ .parallel →
      before.Dispatches step ⟨step, input, before.context⟩)
    (opening : History)
    (last : (History.attempts (opening ++ writing ++ history)).getLast? = some record)
    (completed : record.status = .completed) :
    ∃ work, before.Succeeds step record work result := by
  rw [History.attempts_append] at last
  -- Without retries the failed attempt itself would be the last one on record.
  by_cases none : history.attempts = []
  · rw [none, List.append_nil] at last
    have success := (written.tells_last before.context last).succeeded completed
    cases failure.symm.trans success
  · obtain ⟨met, reaction, repeated⟩ := rejected.repeated_of_attempts none
    have single := Step.type_ne_parallel_of_effectiveAction
      (Step.reaction_eq_retry_iff.mp reaction).2
    rw [List.getLast?_append_of_ne_nil _ none] at last
    exact repeated.succeeds (dispatches met single) last completed

theorem Performed.succeeds
    (performed : Performed step input before history result)
    (single : step.type ≠ .parallel)
    (dispatches : before.Dispatches step ⟨step, input, before.context⟩)
    (last : history.attempts.getLast? = some record)
    (completed : record.status = .completed) :
    ∃ work, before.Succeeds step record work result := by
  cases performed with
  | late => cases last
  | interrupted _ written =>
    cases (written.tells_last before.context last).succeeded completed
  | succeeded tried written =>
    cases tried with
    | attempted _ attempted =>
      exact ⟨_, ⟨dispatches, _, attempted⟩, written.tells_last before.context last,
        _, written.schedule_eq, rfl, rfl⟩
    | fanned parallel => exact (single parallel).elim
  | failed tried written failure rejected =>
    obtain rfl := tried.after_eq single
    obtain ⟨monitor, rfl⟩ := written.after_eq
    obtain ⟨work, succeeds⟩ := rejected.succeeds written failure
      (fun _ _ => dispatches.of_same rfl rfl) _ last completed
    exact ⟨work, succeeds.of_same rfl rfl rfl rfl rfl⟩

/-- A step has succeeded if the last record of its visit says so. -/
theorem Visited.succeeds
    (visited : Visited step before history result)
    (single : step.type ≠ .parallel)
    (last : history.attempts.getLast? = some record)
    (completed : record.status = .completed) :
    ∃ work, before.Succeeds step record work result := by
  cases visited with
  | skipped => cases last
  | @unevaluated _ startedAt _ _ _ _ _ written rejected =>
    -- Conditions are not evaluated again, so there is no retry that could succeed.
    obtain ⟨work, succeeds⟩ := rejected.succeeds written rfl nofun [⟨.now, startedAt⟩]
      last completed
    obtain ⟨monitor, rfl⟩ := written.after_eq
    exact ⟨work, succeeds.of_same rfl rfl rfl rfl rfl⟩
  | @unresolved _ startedAt _ _ _ _ met _ written rejected =>
    obtain ⟨monitor, rfl⟩ := written.after_eq
    obtain ⟨work, succeeds⟩ := rejected.succeeds written rfl
      (fun _ single => .itself single met (.inr rfl)) [⟨.now, startedAt⟩] last completed
    exact ⟨work, succeeds.of_same rfl rfl rfl rfl rfl⟩
  | performed met resolved performed =>
    exact performed.succeeds single (.itself single met (.inl resolved)) last completed

/-- So it has if the last record of a turn says so. -/
theorem Acted.succeeds
    (acted : Acted before history result)
    (current : before.schedule.current? = some step)
    (single : step.type ≠ .parallel)
    (last : history.attempts.getLast? = some record)
    (completed : record.status = .completed) :
    ∃ work, before.Succeeds step record work result := by
  cases acted with
  | idle kept =>
    rw [kept.attempts_eq_nil] at last
    cases last
  | exhausted kept =>
    rw [kept.attempts_eq_nil] at last
    cases last
  | late kept =>
    rw [kept.attempts_eq_nil] at last
    cases last
  | visited opened under visited _ synced =>
    obtain rfl := Option.some.inj (current.symm.trans under)
    rw [History.attempts_append, History.attempts_append, opened.attempts_eq_nil,
      synced.attempts_eq_nil, List.nil_append, List.append_nil] at last
    obtain ⟨work, succeeds⟩ := visited.succeeds single last completed
    exact ⟨work, succeeds.of_same opened.environment.symm opened.context.symm
      opened.schedule.symm synced.schedule rfl⟩

end

end Execution
end WorkflowEngine
