import WorkflowEngine.Proofs.Lockstep

/-!
# Determinacy

Handlers whose results depend on nothing but what they are called with leave an
execution no choice.  Whatever happens around it, as long as it is not told to pause or
to stop and does not run out of time, it makes the same requests and comes to the same
end, apart from times and from what is read from the machine.
-/

namespace WorkflowEngine
namespace Execution

/-! ## Executions that are alike -/

/-- Two executions differ at most in when they began, in the channel they listen to, in
the dates of their records, and in what they have read from the machine. -/
inductive Alike (first : Execution) : Execution → Prop
  | intro
      {record : ExecutionRecord}
      {listener : Listener}
      {startedAt : Span}
      {monitor : Monitor}
      (undated : first.record.undated = record.undated) :
      Alike first { first with record, listener, startedAt, monitor }

namespace Alike

variable {first second : Execution}

/-- Executions that are alike are paused together. -/
theorem isPaused_eq (alike : Alike first second) : second.isPaused = first.isPaused := by
  cases alike
  rfl

theorem schedule_eq (alike : Alike first second) : first.schedule = second.schedule := by
  cases alike
  rfl

theorem context_eq (alike : Alike first second) : first.context = second.context := by
  cases alike
  rfl

/-- To note an outcome in both keeps executions alike. -/
theorem note
    (alike : Alike first second)
    (id : String)
    (outcome : StepOutcome) :
    Alike (first.note id outcome) (second.note id outcome) := by
  cases alike with
  | intro undated => exact .intro undated

/-- Executions that are alike go on to the same step. -/
theorem advance (alike : Alike first second) : Alike first.advance second.advance := by
  cases alike with
  | intro undated => exact .intro undated

theorem jumpTo (alike : Alike first second) (position : Nat) :
    Alike (first.jumpTo position) (second.jumpTo position) := by
  cases alike with
  | intro undated => exact .intro undated

/-- A jump that names its target leads both to the same step, or fails in both. -/
theorem route (alike : Alike first second) (target : String) :
    Alike (first.route target) (second.route target) := by
  unfold Execution.route
  rw [← alike.schedule_eq]
  split
  next =>
    split
    next => exact alike.advance
    next => exact alike.jumpTo _
  next => exact alike.advance

/-- The same can be done to the data of both. -/
theorem withContext
    (alike : Alike first second)
    (context : Context) :
    Alike { first with context } { second with context } := by
  cases alike with
  | intro undated => exact .intro undated

end Alike

/-- The same came of two steps. -/
structure SameResult (first second : Execution × Flow) : Prop where
  alike : Alike first.1 second.1
  flow_eq : first.2 = second.2

/-- Time has run out. -/
def Flow.IsLate : Flow → Prop
  | .finish (.timedOut _) => True
  | .goOn | .finish _ => False

/-- The end of a step that ran out of time. -/
abbrev IsLate (result : Execution × Flow) : Prop := result.2.IsLate

section

variable
  {results : Results}
  {first second : Execution}
  (step : Step)
  (input : Object)

/-- A success that differs in its duration alone has the same consequences in both. -/
theorem Alike.succeed
    (alike : Alike first second)
    {firstOutcome secondOutcome : Outcome}
    (same : firstOutcome.timeless = secondOutcome.timeless) :
    SameResult (first.succeed step firstOutcome) (second.succeed step secondOutcome) := by
  obtain ⟨duration, rfl⟩ := Outcome.exists_eq_of_timeless_eq same
  unfold Execution.succeed
  dsimp only
  rw [← alike.context_eq]
  have noted (context : Context) := (alike.withContext context).note step.id .completed
  split
  next =>
    refine ⟨?_, rfl⟩
    cases alike with
    | intro undated => exact .intro undated
  next =>
    split
    next => exact ⟨(noted _).route _, rfl⟩
    next => exact ⟨(noted _).advance, rfl⟩

/-! ## Attempts -/

/-- What an attempt used of the machine is read by the same requests in both. -/
theorem lockstep_usageOf (result : StepResult) :
    (first.usageOf result).Lockstep results (fun _ => False) (fun _ _ => True)
      (second.usageOf result) := by
  unfold usageOf
  split
  next => exact .done trivial
  next => exact .request rfl fun _ _ => .done trivial

/-- The same attempt is recorded and announced in both, apart from its times. -/
theorem lockstep_write
    (alike : Alike first second)
    (firstStart secondStart : Timestamp)
    (number : Nat)
    {firstOutcome secondOutcome : Outcome}
    (same : firstOutcome.timeless = secondOutcome.timeless) :
    (first.write step input firstStart number firstOutcome).Lockstep results (fun _ => False)
      Alike (second.write step input secondStart number secondOutcome) := by
  obtain ⟨duration, rfl⟩ := Outcome.exists_eq_of_timeless_eq same
  refine (lockstep_usageOf _).bind_of_kept fun _ => ?_
  refine .request rfl fun _ _ => ?_
  cases alike with
  | intro undated =>
    refine .request rfl fun _ _ => ?_
    exact .done (.intro undated)

theorem lockstep_writeNow
    (alike : Alike first second)
    (outcome : Outcome) :
    (first.writeNow step outcome).Lockstep results (fun _ => False) Alike
      (second.writeNow step outcome) :=
  .request rfl fun _ _ => lockstep_write step [] alike _ _ _ rfl

/-- The same further attempts are recorded in both, one after the other. -/
theorem lockstep_writeRetries
    (alike : Alike first second)
    {firstAttempts secondAttempts : List Attempt}
    (same : firstAttempts.map Attempt.timeless = secondAttempts.map Attempt.timeless) :
    (writeRetries step input firstAttempts first).Lockstep results (fun _ => False) Alike
      (writeRetries step input secondAttempts second) := by
  induction firstAttempts generalizing secondAttempts first second with
  | nil =>
    obtain rfl : secondAttempts = [] := by simpa using same.symm
    exact .done alike
  | cons firstAttempt firstRest inductionHypothesis =>
    obtain ⟨secondAttempt, secondRest, rfl, sameAttempt, sameRest⟩ :=
      List.map_eq_cons_iff.mp same.symm
    have number : firstAttempt.number = secondAttempt.number :=
      (congrArg Attempt.number sameAttempt).symm
    have outcome : firstAttempt.outcome.timeless = secondAttempt.outcome.timeless :=
      (congrArg Attempt.outcome sameAttempt).symm
    have counted : Alike { first with retries := first.retries + 1 }
        { second with retries := second.retries + 1 } := by
      cases alike with
      | intro undated => exact .intro undated
    unfold writeRetries
    rw [← number]
    exact (lockstep_write step input counted _ _ _ outcome).bind_of_kept fun alike =>
      inductionHypothesis alike sameRest.symm

/-! ## Parallel steps -/

/-- A branch with the same outcome leaves executions alike. -/
theorem Alike.settleBranch
    (alike : Alike first second)
    {firstOutcome secondOutcome : Outcome}
    (same : firstOutcome.timeless = secondOutcome.timeless) :
    Alike (first.settleBranch step firstOutcome) (second.settleBranch step secondOutcome) := by
  obtain ⟨duration, rfl⟩ := Outcome.exists_eq_of_timeless_eq same
  unfold Execution.settleBranch
  rw [← alike.context_eq, Outcome.succeeded_eq_of_timeless_eq same]
  split
  next => exact (alike.withContext _).note _ _
  next => exact alike.note _ _

/-- The same amounts to the same, and does the same to an execution. -/
theorem lockstep_settleBranches
    (alike : Alike first second)
    {firstBranches secondBranches : List Branch}
    (same : SameBranches firstBranches secondBranches)
    (settlement : Settlement) :
    (settleBranches firstBranches settlement first).Lockstep results (fun _ => False)
      (fun first second => Alike first.1 second.1 ∧ first.2 = second.2)
      (settleBranches secondBranches settlement second) := by
  induction firstBranches generalizing secondBranches settlement first second with
  | nil =>
    obtain rfl : secondBranches = [] := by simpa [SameBranches] using same.symm
    exact .done ⟨alike, rfl⟩
  | cons firstBranch firstRest inductionHypothesis =>
    obtain ⟨secondBranch, secondRest, rfl, sameBranch, sameRest⟩ :=
      List.map_eq_cons_iff.mp same.symm
    cases firstBranch with
    | skipped step =>
      cases secondBranch with
      | skipped other =>
        obtain rfl : other = step := by simpa [Branch.timeless] using sameBranch
        exact inductionHypothesis (alike.note _ _) sameRest.symm _
      | ran => cases sameBranch
    | ran step input startedAt outcome =>
      cases secondBranch with
      | skipped => cases sameBranch
      | ran other otherInput otherStart otherOutcome =>
        obtain ⟨rfl, rfl, sameOutcome⟩ :
            other = step ∧ otherInput = input ∧ otherOutcome.timeless = outcome.timeless := by
          simpa [Branch.timeless] using sameBranch
        obtain ⟨duration, rfl⟩ := Outcome.exists_eq_of_timeless_eq sameOutcome.symm
        unfold settleBranches
        refine (lockstep_write _ _ alike _ _ _ sameOutcome.symm).bind_of_kept fun alike => ?_
        exact inductionHypothesis (alike.settleBranch _ sameOutcome.symm) sameRest.symm _

/-- First attempts have the same outcome, if they have one, and leave executions that are
alike. -/
abbrev SameTry (first second : Execution × Option Outcome) : Prop :=
  Alike first.1 second.1 ∧
    Option.Rel (fun first second => first.timeless = second.timeless) first.2 second.2

/-- A first attempt has the same outcome in both unless it is cut off, whatever limits they
have. -/
theorem lockstep_firstAttempt
    (alike : Alike first second)
    (firstLimit secondLimit : Span) :
    (first.firstAttempt step input firstLimit).Lockstep results (·.2 = none) SameTry
      (second.firstAttempt step input secondLimit) := by
  unfold firstAttempt
  split
  next =>
    cases alike with
    | intro undated =>
      refine (lockstep_fanOutWithin _ _ _ _ _).bind_some (.done rfl) (.done rfl) fun same => ?_
      refine (lockstep_settleBranches (.intro undated) same _).bind_of_kept ?_
      rintro ⟨first, settlement⟩ ⟨second, _⟩ ⟨alike, rfl⟩
      exact .done ⟨alike, .some rfl⟩
  next =>
    cases alike with
    | intro undated =>
      exact (lockstep_attemptWithin _ _ _ _ _ _).bind_some (.done rfl) (.done rfl) fun same =>
        .done ⟨.intro undated, .some same⟩

/-! ## Visits -/

/-- An attempt that is interrupted ends the step for lack of time. -/
theorem loses_interrupt
    (execution : Execution)
    (startedAt : Timestamp)
    (duration : Span) :
    (execution.interrupt step input startedAt duration).Loses results IsLate :=
  .bind fun _ => .done trivial

/-- After the same failure both try again with the same result, unless time runs out in one
of them. -/
theorem lockstep_retry
    (alike : Alike first second)
    {firstOutcome secondOutcome : Outcome}
    (same : firstOutcome.timeless = secondOutcome.timeless) :
    (first.retry step input firstOutcome).Lockstep results IsLate SameResult
      (second.retry step input secondOutcome) := by
  refine .request rfl fun {firstClock secondClock} _ _ => ?_
  -- The clocks may differ, so either of the two may have no time left; then it is lost.
  cases firstLeft : first.remaining? firstClock with
  | none => exact .of_loses_left (.done trivial)
  | some firstLimit =>
    cases secondLeft : second.remaining? secondClock with
    | none => exact .of_loses_right (.done trivial)
    | some secondLimit =>
      have again : (retryWithin first.environment first.context step input
            (RetryPolicy.ofStep step first.environment.settings) firstOutcome
            (some firstLimit.ticks)).Lockstep results (·.outcome = none)
          (fun first second => first.timeless = second.timeless)
          (retryWithin second.environment second.context step input
            (RetryPolicy.ofStep step second.environment.settings) secondOutcome
            (some secondLimit.ticks)) := by
        cases alike
        exact lockstep_retryFrom _ _ _ _ _ _ _ same _ _
      refine again.bind ?_ ?_ ?_
      · intro retried cut
        simp only [cut]
        exact .bind fun _ => .done trivial
      · intro retried cut
        simp only [cut]
        exact .bind fun _ => .done trivial
      rintro ⟨firstAttempts, firstLast⟩ ⟨secondAttempts, secondLast⟩ sameRetried
      obtain ⟨sameAttempts, sameLast⟩ := Retried.mk.inj sameRetried
      refine (lockstep_writeRetries step input alike sameAttempts).bind_of_kept fun alike => ?_
      dsimp only at sameLast ⊢
      cases firstLast with
      | none => exact .of_loses_left (.done trivial)
      | some firstOutcome =>
        obtain ⟨secondOutcome, rfl, same⟩ := Option.map_eq_some_iff.mp sameLast.symm
        obtain ⟨duration, rfl⟩ := Outcome.exists_eq_of_timeless_eq same.symm
        dsimp only
        rw [Outcome.succeeded_eq_of_timeless_eq same.symm]
        split
        next => exact .done (alike.succeed step same.symm)
        next => exact .done ⟨alike.note _ _, rfl⟩

/-- The same failure is handled alike in both. -/
theorem lockstep_fail
    (alike : Alike first second)
    {firstOutcome secondOutcome : Outcome}
    (same : firstOutcome.timeless = secondOutcome.timeless)
    (condition : Option ConditionError) :
    (first.fail step input firstOutcome condition).Lockstep results IsLate SameResult
      (second.fail step input secondOutcome condition) := by
  have reaction : step.reaction secondOutcome second.workflow.policy.onFailure second.schedule =
      step.reaction firstOutcome first.workflow.policy.onFailure first.schedule := by
    obtain ⟨duration, rfl⟩ := Outcome.exists_eq_of_timeless_eq same
    cases alike
    rfl
  unfold fail
  dsimp only
  rw [reaction]
  split
  next => exact .done ⟨alike.note _ _, rfl⟩
  next => exact .done ⟨alike.note _ _, rfl⟩
  next => exact lockstep_retry step input alike same
  next => exact .done ⟨(alike.note _ _).advance, rfl⟩
  next => exact .done ⟨(alike.note _ _).advance, rfl⟩
  next => exact .done ⟨(alike.note _ _).jumpTo _, rfl⟩

/-- A step is performed alike in both, branches and further attempts included. -/
theorem lockstep_perform (alike : Alike first second) :
    (first.perform step input).Lockstep results IsLate SameResult
      (second.perform step input) := by
  refine .request rfl fun {firstClock secondClock} _ _ => ?_
  cases firstLeft : first.remaining? firstClock with
  | none => exact .of_loses_left (.done trivial)
  | some firstLimit =>
    cases secondLeft : second.remaining? secondClock with
    | none => exact .of_loses_right (.done trivial)
    | some secondLimit =>
      refine .request rfl fun _ _ => ?_
      refine (lockstep_firstAttempt step input alike _ _).bind ?_ ?_ ?_
      · rintro ⟨execution, _⟩ rfl
        exact loses_interrupt step input _ _ _
      · rintro ⟨execution, _⟩ rfl
        exact loses_interrupt step input _ _ _
      rintro ⟨first, _⟩ ⟨second, _⟩ ⟨alike, ⟨same⟩ | _⟩
      case none => exact .of_loses_left (loses_interrupt step input _ _ _)
      refine (lockstep_write step input alike _ _ _ same).bind_of_kept fun alike => ?_
      rw [Outcome.succeeded_eq_of_timeless_eq same]
      split
      next => exact .done (alike.succeed step same)
      next => exact lockstep_fail step input alike same none

/-- A step runs alike in both, whether its conditions hold or not. -/
theorem lockstep_runStep (alike : Alike first second) :
    (first.runStep step).Lockstep results IsLate SameResult (second.runStep step) := by
  unfold runStep
  rw [← alike.context_eq]
  split
  next => exact .done ⟨(alike.note _ _).advance, rfl⟩
  next =>
    exact (lockstep_writeNow step alike _).bind_of_kept fun alike =>
      lockstep_fail step [] alike rfl _
  next =>
    split
    next =>
      exact (lockstep_writeNow step alike _).bind_of_kept fun alike =>
        lockstep_fail step [] alike rfl none
    next => exact lockstep_perform step _ alike

/-! ## Turns -/

/-- The tallies of a record say nothing of time. -/
theorem undated_tallied (execution : Execution) (now : Timestamp) :
    (execution.tallied now).undated =
      { execution.record.undated with
        completedSteps := execution.schedule.counts.completed
        failedSteps := execution.schedule.counts.failed
        skippedSteps := execution.schedule.counts.skipped
        progress := execution.schedule.progress } := rfl

/-- Apart from time, bringing a record up to date renews its tallies. -/
theorem timeless_tallied (execution : Execution) (now : Timestamp) :
    (execution.tallied now).timeless =
      { execution.record.timeless with
        completedSteps := execution.schedule.counts.completed
        failedSteps := execution.schedule.counts.failed
        skippedSteps := execution.schedule.counts.skipped
        progress := execution.schedule.progress } := rfl

/-- The records of executions that are alike differ in their dates alone. -/
theorem Alike.undated_eq (alike : Alike first second) :
    first.record.undated = second.record.undated := by
  cases alike with
  | intro undated => exact undated

/-- The record is brought up to date by the same requests in both. -/
theorem lockstep_sync (alike : Alike first second) :
    first.sync.Lockstep results (fun _ => False) Alike second.sync := by
  have undated (firstNow secondNow : Timestamp) :
      (first.tallied firstNow).undated = (second.tallied secondNow).undated := by
    rw [undated_tallied, undated_tallied, alike.undated_eq, alike.schedule_eq]
  refine .request rfl fun _ _ => ?_
  refine .request (congrArg Request.update
    (ExecutionRecord.timeless_eq_of_undated_eq (undated _ _))) fun _ _ => .done ?_
  cases alike with
  | intro => exact .intro (undated _ _)

theorem isPaused_of_ends_sync
    {history : History}
    {after : Execution}
    (ends : first.sync.Ends history after) :
    after.isPaused = first.isPaused := by
  obtain ⟨_, _, _, rfl⟩ := ends_sync ends
  rfl

theorem Alike.withCurrentStep (alike : Alike first second) (id : String) :
    Alike { first with record := { first.record with currentStep := some id } }
      { second with record := { second.record with currentStep := some id } } := by
  have undated : { first.record.undated with currentStep := some id } =
      { second.record.undated with currentStep := some id } := by rw [alike.undated_eq]
  cases alike with
  | intro goesOn => exact .intro undated

/-- A step of the main line has the same result in both, from the look at the time to what is
stored. -/
theorem lockstep_step (alike : Alike first second) :
    first.step.Lockstep results IsLate SameResult second.step := by
  have current : second.schedule.current? = first.schedule.current? := by
    rw [alike.schedule_eq]
  unfold Execution.step
  rw [current]
  split
  next => exact .done ⟨alike, rfl⟩
  next step _ =>
    refine .request rfl fun {firstClock secondClock} _ _ => ?_
    by_cases firstLate : first.isTimedOut firstClock
    · rw [if_pos firstLate]
      exact .of_loses_left (.done trivial)
    by_cases secondLate : second.isTimedOut secondClock
    · rw [if_pos secondLate]
      exact .of_loses_right (.done trivial)
    rw [if_neg firstLate, if_neg secondLate]
    dsimp only
    refine (lockstep_runStep step (alike.withCurrentStep step.id)).bind ?_ ?_ ?_
    · exact fun _ late => .bind fun _ => .done late
    · exact fun _ late => .bind fun _ => .done late
    · rintro ⟨first, flow⟩ ⟨second, _⟩ ⟨alike, rfl⟩
      exact (lockstep_sync alike).bind_of_kept fun alike => .done ⟨alike, rfl⟩

/-- The same came of two steps, and no pause. -/
abbrev SameActivity (first second : Execution × Flow) : Prop :=
  SameResult first second ∧ first.1.isPaused = false

/-- A turn is spent alike in both as long as neither of them is paused. -/
theorem lockstep_activity
    (alike : Alike first second)
    (goesOn : first.isPaused = false) :
    first.activity.Lockstep results IsLate SameActivity second.activity := by
  have alsoGoesOn : second.isPaused = false := alike.isPaused_eq.trans goesOn
  unfold activity runningActivity
  rw [if_neg (by simp [goesOn]), if_neg (by simp [alsoGoesOn])]
  refine .request rfl fun {firstAnswer secondAnswer} firstRuns secondRuns => ?_
  obtain ⟨firstSignal, firstListener⟩ := firstAnswer
  obtain ⟨secondSignal, secondListener⟩ := secondAnswer
  obtain rfl : firstSignal = .run := firstRuns
  obtain rfl : secondSignal = .run := secondRuns
  have heard : Alike { first with listener := firstListener }
      { second with listener := secondListener } := by
    cases alike with
    | intro undated => exact .intro undated
  exact (lockstep_step heard).and_left fun ends => (silent_of_ends_step ends).2.trans goesOn

/-! ## Endings -/

/-- Apart from what is read from the machine, the metrics count attempts and retries. -/
theorem unmeasured_metrics (execution : Execution) :
    unmeasured execution.metrics =
      unmeasured (Dict.merge execution.record.metrics
        [("attempts", .ofNat execution.attempts), ("retries", .ofNat execution.retries)]) := by
  unfold metrics
  dsimp only
  rw [Dict.merge, List.foldl_cons, List.foldl_cons, List.foldl_nil]
  rw [unmeasured_insert (by simp [measuredKeys]), unmeasured_insert (by simp [measuredKeys])]

/-- Executions that are alike differ at most in the metrics that are read from
the machine. -/
theorem Alike.unmeasured_metrics (alike : Alike first second) :
    unmeasured first.metrics = unmeasured second.metrics := by
  have metrics : first.record.undated.metrics = second.record.undated.metrics := by
    rw [alike.undated_eq]
  have attempts : first.attempts = second.attempts := by
    cases alike
    rfl
  have retries : first.retries = second.retries := by
    cases alike
    rfl
  unfold ExecutionRecord.undated at metrics
  rw [Execution.unmeasured_metrics, Execution.unmeasured_metrics, attempts, retries, metrics]

/-- Executions that are alike close their records alike. -/
theorem Alike.timeless_closingRecord
    (alike : Alike first second)
    (ending : Ending)
    (firstNow secondNow : Timestamp) :
    (first.closingRecord ending firstNow).timeless =
      (second.closingRecord ending secondNow).timeless := by
  have closed (execution : Execution) (now : Timestamp) :
      (execution.closingRecord ending now).timeless =
        { execution.record.undated with
          status := ending.status
          output := execution.context.executionData
          metrics := unmeasured execution.metrics
          completedAt := some .epoch
          durationMs := some 0
          errorCode := ((ending.error? execution.context.timeout).map EngineError.code).or
            execution.record.undated.errorCode
          errorMessage := ((ending.error? execution.context.timeout).map EngineError.message).or
            execution.record.undated.errorMessage
          failedStep :=
            if (ending.error? execution.context.timeout).isSome then ending.step?
            else execution.record.undated.failedStep } := by
    unfold closingRecord
    cases ending.error? execution.context.timeout <;> rfl
  rw [closed, closed, alike.unmeasured_metrics, alike.undated_eq, alike.context_eq]

/-- Whatever was never reached is accounted for alike in both. -/
theorem Alike.settled
    (alike : Alike first second)
    (ending : Ending) :
    Alike (first.settled ending) (second.settled ending) := by
  unfold Execution.settled
  split
  next => exact alike
  next =>
    cases alike with
    | intro undated => exact .intro undated

/-- The end is announced alike in both. -/
theorem lockstep_announceEnd
    (same : first.record.timeless = second.record.timeless)
    (status : ExecutionStatus) :
    (first.announceEnd status).Lockstep results (fun _ => False) (fun _ _ => True)
      (second.announceEnd status) := by
  have announced (kind : EventKind) :
      (Event.ofRecord kind first.record).timeless =
        (Event.ofRecord kind second.record).timeless := by
    rw [Event.timeless_ofRecord, Event.timeless_ofRecord, same]
  unfold announceEnd
  split
  next kind _ =>
    exact .request (congrArg Request.announce (announced kind)) fun _ _ => .done trivial
  next => exact .done trivial

/-- Both are brought to an end by the same requests, with the same record apart from its
times. -/
theorem lockstep_finalize
    (alike : Alike first second)
    (ending : Ending) :
    (first.finalize ending).Lockstep results (fun _ => False)
      (fun first second => first.timeless = second.timeless) (second.finalize ending) := by
  have settled := alike.settled ending
  have same (firstNow secondNow firstLater secondLater : Timestamp) :
      (tallied { first.settled ending with
          record := (first.settled ending).closingRecord ending firstNow } firstLater).timeless =
        (tallied { second.settled ending with
          record := (second.settled ending).closingRecord ending secondNow }
          secondLater).timeless := by
    rw [timeless_tallied, timeless_tallied]
    dsimp only
    rw [settled.timeless_closingRecord ending firstNow secondNow, settled.schedule_eq]
  unfold finalize
  rw [alike.context_eq]
  refine .request rfl fun _ _ => ?_
  refine .request rfl fun _ _ => ?_
  refine .request rfl fun _ _ => ?_
  refine .request (congrArg Request.update (same _ _ _ _)) fun _ _ => ?_
  exact (lockstep_announceEnd (same _ _ _ _) _).bind_of_kept fun _ => .done (same _ _ _ _)

/-! ## Whole executions -/

/-- An execution that was refused or that ran out of time. -/
def Next.IsLost : Next → Prop
  | .refused _ => True
  | .turn _ => False
  | .ended record => record.status = .timeout

/-- The same comes of two turns. -/
inductive SameNext : Next → Next → Prop
  | turn
      {first second : Execution}
      (alike : Alike first second)
      (goesOn : first.isPaused = false) :
      SameNext (.turn first) (.turn second)
  | ended
      {first second : ExecutionRecord}
      (same : first.timeless = second.timeless) :
      SameNext (.ended first) (.ended second)

/-- An execution that ran out of time is recorded so. -/
theorem loses_finalize
    (execution : Execution)
    {ending : Ending}
    (late : Flow.IsLate (.finish ending)) :
    (execution.finalize ending).Loses results (·.status = .timeout) := by
  constructor
  intro history record ends _
  rw [(closed_of_ends ends).status]
  cases ending with
  | timedOut => rfl
  | _ => cases late

/-- A turn is the same in both, and so is what comes of it. -/
theorem lockstep_turn
    (alike : Alike first second)
    (goesOn : first.isPaused = false) :
    first.turn.Lockstep results Next.IsLost SameNext second.turn := by
  have stays {execution : Execution} {ending : Ending}
      (late : IsLate (execution, .finish ending)) :
      Program.Loses results Next.IsLost
        (execution.finalize ending >>= fun record => Program.done (.ended record)) :=
    (loses_finalize execution late).andThen fun _ lost => .done lost
  refine (lockstep_activity alike goesOn).bind ?_ ?_ ?_
  · rintro ⟨execution, flow⟩ late
    cases flow with
    | goOn => exact late.elim
    | finish ending => exact stays late
  · rintro ⟨execution, flow⟩ late
    cases flow with
    | goOn => exact late.elim
    | finish ending => exact stays late
  · rintro ⟨first, flow⟩ ⟨second, _⟩ ⟨⟨alike, rfl⟩, goesOn⟩
    cases flow with
    | goOn => exact .done (.turn alike goesOn)
    | finish ending =>
      exact (lockstep_finalize alike ending).bind_of_kept fun same => .done (.ended same)

/-- Two starts of the same call lead to executions that are alike. -/
theorem lockstep_start
    (environment : Environment)
    (workflow : Workflow)
    (call : Call) :
    (start environment workflow call).Lockstep results Next.IsLost SameNext
      (start environment workflow call) := by
  refine .request rfl fun {firstClock secondClock} _ _ => ?_
  refine .request rfl fun {firstAdmission secondAdmission} _ _ => ?_
  cases firstAdmission with
  | error => exact .of_loses_left (.done trivial)
  | ok firstListener =>
    cases secondAdmission with
    | error => exact .of_loses_right (.done trivial)
    | ok secondListener =>
      refine .request rfl fun {firstNow secondNow} _ _ => ?_
      refine .request rfl fun {firstCreation secondCreation} _ _ => ?_
      cases firstCreation with
      | error => exact .of_loses_left (.bind fun _ => .done trivial)
      | ok =>
        cases secondCreation with
        | error => exact .of_loses_right (.bind fun _ => .done trivial)
        | ok =>
          have alike : Alike
              (opening environment workflow call firstListener firstClock firstNow)
              (opening environment workflow call secondListener secondClock secondNow) :=
            .intro rfl
          refine .request rfl fun _ _ => ?_
          exact ((lockstep_sync alike).and_left isPaused_of_ends_sync).bind_of_kept
            fun ⟨alike, kept⟩ => .done (.turn alike kept)


end

/-- An execution goes on from a program to its end. -/
inductive Concludes : Program Next → History → ExecutionRecord → Prop
  | last
      {program : Program Next}
      {history : History}
      {record : ExecutionRecord}
      (ends : program.Ends history (.ended record)) :
      Concludes program history record
  | turn
      {program : Program Next}
      {history rest : History}
      {execution : Execution}
      {record : ExecutionRecord}
      (ends : program.Ends history (.turn execution))
      (concludes : Concludes execution.turn rest record) :
      Concludes program (history ++ rest) record

section

variable
  {environment : Environment}
  {workflow : Workflow}
  {call : Call}

/-- A run that has come to a turn concludes as the turn does. -/
theorem Run.concludes_of_turn
    {past rest : History}
    {execution : Execution}
    {record : ExecutionRecord}
    (run : Run environment workflow call past (.done (.turn execution)))
    (concludes : Concludes execution.turn rest record) :
    Concludes (Execution.start environment workflow call) (past ++ rest) record := by
  generalize reached : Program.done (Next.turn execution) = now at run
  induction run generalizing execution rest with
  | start begun =>
    subst reached
    exact .turn begun concludes
  | turn _ turned inductionHypothesis =>
    subst reached
    rw [List.append_assoc]
    exact inductionHypothesis (.turn turned concludes) rfl

/-- A run that ends takes an execution from its start to its end. -/
theorem Run.concludes
    {history : History}
    {record : ExecutionRecord}
    (run : Run environment workflow call history (.done (.ended record))) :
    Concludes (Execution.start environment workflow call) history record := by
  cases run with
  | start begun => exact .last begun
  | turn past turned => exact past.concludes_of_turn (.last turned)

end

section

variable {results : Results}

/-- What begins in lockstep ends in lockstep. -/
theorem Concludes.meet
    {first second : Program Next}
    {firstHistory secondHistory : History}
    {firstRecord secondRecord : ExecutionRecord}
    (lockstep : first.Lockstep results Next.IsLost SameNext second)
    (firstConcludes : Concludes first firstHistory firstRecord)
    (secondConcludes : Concludes second secondHistory secondRecord)
    (firstConforms : firstHistory.Conforms results)
    (secondConforms : secondHistory.Conforms results)
    (firstInTime : firstRecord.status ≠ .timeout)
    (secondInTime : secondRecord.status ≠ .timeout) :
    firstRecord.timeless = secondRecord.timeless ∧
      firstHistory.requests = secondHistory.requests := by
  induction firstConcludes generalizing second secondHistory with
  | last firstEnds =>
    cases secondConcludes with
    | last secondEnds =>
      obtain ⟨same, requests⟩ := lockstep.meet ⟨firstEnds, firstConforms, firstInTime⟩
        ⟨secondEnds, secondConforms, secondInTime⟩
      cases same with
      | ended same => exact ⟨same, requests⟩
    | turn secondEnds =>
      -- The end of an execution is not related to another turn.
      obtain ⟨same, -⟩ := lockstep.meet ⟨firstEnds, firstConforms, firstInTime⟩
        ⟨secondEnds, (List.forall_mem_append.mp secondConforms).1, id⟩
      cases same
  | turn firstEnds _ inductionHypothesis =>
    obtain ⟨firstEarly, firstLate⟩ := List.forall_mem_append.mp firstConforms
    cases secondConcludes with
    | last secondEnds =>
      obtain ⟨same, -⟩ := lockstep.meet ⟨firstEnds, firstEarly, id⟩
        ⟨secondEnds, secondConforms, secondInTime⟩
      cases same
    | turn secondEnds concludes =>
      obtain ⟨secondEarly, secondLate⟩ := List.forall_mem_append.mp secondConforms
      obtain ⟨same, begun⟩ := lockstep.meet ⟨firstEnds, firstEarly, id⟩
        ⟨secondEnds, secondEarly, id⟩
      cases same with
      | turn alike goesOn =>
        obtain ⟨same, ended⟩ := inductionHypothesis (lockstep_turn alike goesOn) concludes
          firstLate secondLate firstInTime
        exact ⟨same, by rw [History.requests_append, History.requests_append, begun, ended]⟩

/-- Two runs of one call that end in time have the same record and have made the same
requests. -/
theorem Run.determined
    {environment : Environment}
    {workflow : Workflow}
    {call : Call}
    {firstHistory secondHistory : History}
    {firstRecord secondRecord : ExecutionRecord}
    (first : Run environment workflow call firstHistory (.done (.ended firstRecord)))
    (second : Run environment workflow call secondHistory (.done (.ended secondRecord)))
    (firstConforms : firstHistory.Conforms results)
    (secondConforms : secondHistory.Conforms results)
    (firstInTime : firstRecord.status ≠ .timeout)
    (secondInTime : secondRecord.status ≠ .timeout) :
    firstRecord.timeless = secondRecord.timeless ∧
      firstHistory.requests = secondHistory.requests :=
  first.concludes.meet (lockstep_start environment workflow call) second.concludes
    firstConforms secondConforms firstInTime secondInTime

end
end Execution
end WorkflowEngine
