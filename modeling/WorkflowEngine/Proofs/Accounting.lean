import WorkflowEngine.Proofs.Run
import WorkflowEngine.Proofs.Steps

/-!
# Accounting for steps

A schedule keeps one outcome for each step, so the tallies of a record never
count a step twice.  Outcomes are replaced but never withdrawn, so the tallies
never shrink, and whatever ends an execution other than a cancellation gives an
outcome to every step.
-/

namespace WorkflowEngine

namespace Schedule

/-- The steps that are accounted for are those with an outcome. -/
theorem accounted_eq_countP (schedule : Schedule) :
    schedule.accounted =
      schedule.steps.countP (fun step => (schedule.outcome? step.id).isSome) := by
  unfold accounted StepCounts.total counts countOf
  induction schedule.steps with
  | nil => rfl
  | cons step rest inductionHypothesis =>
    dsimp only at inductionHypothesis ⊢
    simp only [List.countP_cons]
    cases noted : schedule.outcome? step.id with
    | none =>
      simp
      omega
    | some outcome =>
      cases outcome <;> simp <;> omega

theorem accounted_le_length (schedule : Schedule) :
    schedule.accounted ≤ schedule.steps.length := by
  rw [accounted_eq_countP]
  exact List.countP_le_length

/-- What is accounted for stays accounted for. -/
theorem Continues.accounted_le
    {before after : Schedule}
    (continues : before.Continues after) :
    before.accounted ≤ after.accounted := by
  rw [accounted_eq_countP, accounted_eq_countP, continues.steps]
  exact List.countP_mono_left fun step _ noted => continues.noted step.id noted

/-- Noting the steps that never ran leaves none of them open. -/
theorem isSome_find?_skipRest
    (steps : List Step)
    (outcomes : Dict StepOutcome) :
    ∀ step ∈ steps, (Dict.find? step.id (skipRest steps outcomes)).isSome = true := by
  induction steps generalizing outcomes with
  | nil => simp
  | cons first rest inductionHypothesis =>
    intro step member
    unfold skipRest
    split
    next known =>
      rcases List.mem_cons.mp member with rfl | member
      · obtain ⟨outcome, known⟩ := Option.isSome_iff_exists.mp known
        rw [find?_skipRest rest known]
        rfl
      · exact inductionHypothesis _ step member
    next =>
      rcases List.mem_cons.mp member with rfl | member
      · rw [find?_skipRest rest (Dict.find?_insert_self step.id .skipped outcomes)]
        rfl
      · exact inductionHypothesis _ step member

theorem accounted_finish (schedule : Schedule) :
    schedule.finish.accounted = schedule.steps.length := by
  rw [accounted_eq_countP]
  exact List.countP_eq_length.mpr (isSome_find?_skipRest schedule.steps schedule.outcomes)

end Schedule

namespace Execution

/-- The records that were stored on the way from one execution to another lie
between them. -/
structure Accounts (before : Execution) (history : History) (after : Execution) : Prop where
  continues : before.Continues after
  within : ∀ record ∈ history.records,
    before.schedule.accounted ≤ record.accounted ∧
      record.accounted ≤ after.schedule.accounted
  total : ∀ record ∈ history.records, record.totalSteps = before.record.totalSteps
  ordered : history.records.Pairwise (fun earlier later => earlier.accounted ≤ later.accounted)

namespace Accounts

variable {before middle after : Execution} {history first rest : History}

/-- Where no record is stored it is enough that the execution goes on. -/
theorem of_silent
    (continues : before.Continues after)
    (silent : history.records = []) :
    Accounts before history after where
  continues := continues
  within record member := by simp [silent] at member
  total record member := by simp [silent] at member
  ordered := by simp [silent]

theorem trans
    (begun : Accounts before first middle)
    (continued : Accounts middle rest after) :
    Accounts before (first ++ rest) after where
  continues := begun.continues.trans continued.continues
  within record member := by
    rw [History.records_append, List.mem_append] at member
    rcases member with member | member
    · have ⟨lower, upper⟩ := begun.within record member
      exact ⟨lower, Nat.le_trans upper continued.continues.schedule.accounted_le⟩
    · have ⟨lower, upper⟩ := continued.within record member
      exact ⟨Nat.le_trans begun.continues.schedule.accounted_le lower, upper⟩
  total record member := by
    rw [History.records_append, List.mem_append] at member
    rcases member with member | member
    · exact begun.total record member
    · exact (continued.total record member).trans begun.continues.totalSteps
  ordered := by
    rw [History.records_append, List.pairwise_append]
    refine ⟨begun.ordered, continued.ordered, fun earlier early later late => ?_⟩
    exact Nat.le_trans (begun.within earlier early).2 (continued.within later late).1

end Accounts

theorem Kept.accounts
    {before after : Execution}
    {history : History}
    (kept : Kept before history after) :
    Accounts before history after where
  continues := kept.continues
  within record member := by
    rw [(kept.records record member).1, kept.schedule]
    exact ⟨Nat.le_refl _, Nat.le_refl _⟩
  total record member := (kept.records record member).2
  ordered := by
    apply List.pairwise_of_forall_mem_list
    intro earlier early later late
    have same : earlier.accounted = later.accounted :=
      (kept.records earlier early).1.trans (kept.records later late).1.symm
    exact Nat.le_of_eq same

/-- A turn stores no record that is out of line. -/
theorem Acted.accounts
    {before : Execution}
    {history : History}
    {result : Execution × Flow}
    (acted : Acted before history result) :
    Accounts before history result.1 := by
  cases acted with
  | idle kept => exact kept.accounts
  | exhausted kept => exact kept.accounts
  | late kept => exact kept.accounts
  | visited opened _ visited uses synced =>
    have silent := History.records_eq_nil uses fun {request} visit => by
      cases request <;> first | rfl | cases visit
    exact (opened.accounts.trans (.of_silent visited.continues silent)).trans synced.accounts

/-- The records that were stored so far are no further than the execution. -/
structure Balanced (workflow : Workflow) (history : History) (execution : Execution) : Prop where
  steps : execution.schedule.steps = workflow.orderedSteps
  totalSteps : execution.record.totalSteps = workflow.steps.length
  stored : ∀ record ∈ history.records,
    record.accounted ≤ execution.schedule.accounted ∧
      record.totalSteps = workflow.steps.length
  ordered : history.records.Pairwise (fun earlier later => earlier.accounted ≤ later.accounted)

namespace Balanced

variable
  {environment : Environment}
  {workflow : Workflow}
  {call : Call}
  {history past : History}
  {execution after : Execution}

theorem of_started
    (started : Started environment workflow call history (.turn execution)) :
    Balanced workflow history execution := by
  cases started with
  | admitted unattempted uncalled created accounted totalSteps kept =>
    have continues := kept.continues
    refine ⟨continues.schedule.steps, continues.totalSteps, ?_, ?_⟩
    · intro record member
      rw [History.records_append, created, List.singleton_append, List.mem_cons] at member
      rcases member with rfl | member
      · rw [accounted]
        exact ⟨Nat.zero_le _, totalSteps⟩
      · have ⟨same, total⟩ := kept.records record member
        rw [same, kept.schedule]
        exact ⟨Nat.le_refl _, total⟩
    · rw [History.records_append, created, List.singleton_append, List.pairwise_cons]
      refine ⟨fun record member => ?_, kept.accounts.ordered⟩
      rw [accounted]
      exact Nat.zero_le _

theorem append
    (balanced : Balanced workflow past execution)
    (accounts : Accounts execution history after) :
    Balanced workflow (past ++ history) after where
  steps := accounts.continues.schedule.steps.trans balanced.steps
  totalSteps := accounts.continues.totalSteps.trans balanced.totalSteps
  stored record member := by
    rw [History.records_append, List.mem_append] at member
    rcases member with member | member
    · have ⟨bound, total⟩ := balanced.stored record member
      exact ⟨Nat.le_trans bound accounts.continues.schedule.accounted_le, total⟩
    · exact ⟨(accounts.within record member).2,
        (accounts.total record member).trans balanced.totalSteps⟩
  ordered := by
    rw [History.records_append, List.pairwise_append]
    refine ⟨balanced.ordered, accounts.ordered, fun earlier early later late => ?_⟩
    exact Nat.le_trans (balanced.stored earlier early).1 (accounts.within later late).1

/-- The tallies between two turns never exceed the number of steps. -/
theorem accounted_le
    (balanced : Balanced workflow history execution) :
    execution.schedule.accounted ≤ workflow.steps.length := by
  have bound := execution.schedule.accounted_le_length
  rwa [balanced.steps, Workflow.length_orderedSteps] at bound

theorem of_run
    (run : Run environment workflow call history (.done (.turn execution))) :
    Balanced workflow history execution :=
  run.invariant of_started fun _ balanced acted => balanced.append (acted_of_ends acted).accounts

end Balanced

/-- The records of a history count no step of a workflow twice, and none of them
counts fewer than an earlier one. -/
structure Tallied (workflow : Workflow) (history : History) : Prop where
  total : ∀ record ∈ history.records, record.totalSteps = workflow.steps.length
  bounded : ∀ record ∈ history.records, record.accounted ≤ record.totalSteps
  ordered : history.records.Pairwise (fun earlier later => earlier.accounted ≤ later.accounted)

namespace Tallied

variable
  {environment : Environment}
  {workflow : Workflow}
  {call : Call}
  {history rest : History}

/-- What holds of all records holds of those that were stored first. -/
theorem of_append (tallied : Tallied workflow (history ++ rest)) : Tallied workflow history where
  total record member :=
    tallied.total record (by simp [member])
  bounded record member :=
    tallied.bounded record (by simp [member])
  ordered := by
    have ordered := tallied.ordered
    rw [History.records_append, List.pairwise_append] at ordered
    exact ordered.1

theorem of_balanced
    {execution : Execution}
    (balanced : Balanced workflow history execution) :
    Tallied workflow history where
  total record member := (balanced.stored record member).2
  bounded record member := by
    have ⟨bound, total⟩ := balanced.stored record member
    rw [total]
    exact Nat.le_trans bound balanced.accounted_le
  ordered := balanced.ordered

/-- The last record is in line with those before it. -/
theorem of_closed
    {past closing : History}
    {last : Execution}
    {ending : Ending}
    {record : ExecutionRecord}
    (balanced : Balanced workflow past last)
    (closed : Closed last ending closing record) :
    Tallied workflow (past ++ closing) := by
  have settled := last.continues_settled ending
  have total : record.totalSteps = workflow.steps.length :=
    closed.totalSteps.trans balanced.totalSteps
  have bound := (last.settled ending).schedule.accounted_le_length
  rw [settled.schedule.steps, balanced.steps, Workflow.length_orderedSteps] at bound
  have earlier := of_balanced balanced
  refine ⟨?_, ?_, ?_⟩ <;> rw [History.records_append, closed.records]
  · intro stored member
    rcases List.mem_append.mp member with member | member
    · exact earlier.total stored member
    · rwa [List.mem_singleton.mp member]
  · intro stored member
    rcases List.mem_append.mp member with member | member
    · exact earlier.bounded stored member
    · rw [List.mem_singleton.mp member, closed.accounted, total]
      exact bound
  · rw [List.pairwise_append]
    refine ⟨earlier.ordered, List.pairwise_singleton _ _, fun stored member final late => ?_⟩
    rw [List.mem_singleton.mp late, closed.accounted]
    exact Nat.le_trans (balanced.stored stored member).1 settled.schedule.accounted_le

theorem of_refused
    {error : EngineError}
    (started : Started environment workflow call history (.refused error)) :
    Tallied workflow history := by
  cases started with
  | refused unattempted uncalled records sorted =>
    refine ⟨fun record member => (records record member).2, fun record member => ?_, ?_⟩
    · rw [(records record member).1]
      exact Nat.zero_le _
    · apply List.pairwise_of_forall_mem_list
      intro earlier early later late
      rw [(records earlier early).1]
      exact Nat.zero_le _

end Tallied

/-- An ending other than a cancellation accounts for every step. -/
theorem Closed.accounted_eq
    {workflow : Workflow}
    {past closing : History}
    {last : Execution}
    {ending : Ending}
    {record : ExecutionRecord}
    (closed : Closed last ending closing record)
    (balanced : Balanced workflow past last)
    (finished : record.status ≠ .cancelled) :
    record.accounted = record.totalSteps := by
  rw [closed.status] at finished
  rw [closed.accounted, closed.totalSteps, balanced.totalSteps]
  unfold settled
  rw [if_neg finished, Schedule.accounted_finish, balanced.steps, Workflow.length_orderedSteps]

namespace Run

variable
  {environment : Environment}
  {workflow : Workflow}
  {call : Call}
  {history : History}
  {now : Program Next}

theorem tallied (run : Run environment workflow call history now) : Tallied workflow history := by
  obtain ⟨rest, next, complete⟩ := run.exists_ends
  apply Tallied.of_append
  cases next with
  | refused error => exact .of_refused (started_of_ends complete.ends_of_refused)
  | turn execution => exact .of_balanced (Balanced.of_run complete)
  | ended record =>
    obtain ⟨past, execution, acting, last, ending, closing, parts, begun, acted, closed⟩ :=
      complete.last_turn
    rw [parts]
    have balanced := (Balanced.of_run begun).append (acted_of_ends acted).accounts
    exact .of_closed balanced (closed_of_ends closed)

/-- However a run goes, the records that it stores account for no more steps
than there are and for no fewer from one to the next, and the last of them is
the one that is returned.  It accounts for all steps unless the execution was
cancelled. -/
theorem records_account_for_steps
    (run : Run environment workflow call history now) :
    (∀ record ∈ history.records,
      record.totalSteps = workflow.steps.length ∧ record.accounted ≤ record.totalSteps) ∧
    history.records.Pairwise (fun earlier later => earlier.accounted ≤ later.accounted) ∧
    ∀ record, now = .done (.ended record) →
      history.records.getLast? = some record ∧
      (record.status ≠ .cancelled → record.accounted = record.totalSteps) := by
  refine ⟨fun record member => ?_, run.tallied.ordered, ?_⟩
  · exact ⟨run.tallied.total record member, run.tallied.bounded record member⟩
  · rintro record rfl
    obtain ⟨past, execution, acting, last, ending, closing, rfl, begun, acted, ends⟩ :=
      run.last_turn
    have closed := closed_of_ends ends
    have balanced := (Balanced.of_run begun).append (acted_of_ends acted).accounts
    refine ⟨?_, closed.accounted_eq balanced⟩
    rw [History.records_append, closed.records, List.getLast?_concat]

end Run

/-- A workflow of two steps. -/
def pair : Workflow where
  id := "pair"
  steps := [{ id := "first", type := .custom "call" }, { id := "second", type := .custom "call" }]

/-- Where the second step leads back to the first one, no step counts twice. -/
theorem records_account_for_steps_of_return :
    ∃ history record,
      played { handled := [(.custom "call", true)] } pair { executionId := "run" } 5
        [⟨.zero, .ok .succeed⟩, ⟨.zero, .ok { success := true, nextStep := some "first" }⟩] =
        (history, .ended record) ∧
      history.attempts.map StepRecord.stepId = ["first", "second", "first", "second"] ∧
      history.records.map ExecutionRecord.accounted = [0, 0, 1, 2, 2, 2, 2] ∧
      record.status ≠ .cancelled ∧ record.accounted = record.totalSteps := by
  refine ⟨_, _, rfl, rfl, rfl, by decide, ?_⟩
  have run := run_played { handled := [(.custom "call", true)] } pair { executionId := "run" } 5
    [⟨.zero, .ok .succeed⟩, ⟨.zero, .ok { success := true, nextStep := some "first" }⟩]
  exact (run.records_account_for_steps.2.2 _ rfl).2 (by decide)

end Execution
end WorkflowEngine
