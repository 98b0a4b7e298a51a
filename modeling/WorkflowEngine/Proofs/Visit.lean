import WorkflowEngine.Proofs.FanOut
import WorkflowEngine.Proofs.Retry
import WorkflowEngine.Proofs.Writing

/-!
# Histories of visits

How an execution visits a step on its main line: the conditions and the input,
the first attempt, the reaction to a failure, and the retries.
-/

namespace WorkflowEngine
namespace Execution

section

variable (step : Step) (input : Object)

/-- How the first attempt at a step goes, and its outcome if time allows
one. -/
inductive Tried (before : Execution) : History → Execution → Option Outcome → Prop
  | attempted
      {history : History}
      {result : Option Outcome}
      (single : step.type ≠ .parallel)
      (attempted : Attempted before.environment before.context step input history result) :
      Tried before history before result
  /-- Time runs out during a fan-out. -/
  | overrun
      {history : History}
      {branches : List Branch}
      {millis : Nat}
      (parallel : step.type = .parallel)
      (fanned : FannedOut before.environment before.context (before.schedule.branches step)
        history branches)
      (short : millis < (Branch.longest branches).ticks) :
      Tried before (history ++ [⟨.wait millis, ()⟩]) before none
  | fanned
      {history writes : History}
      {branches : List Branch}
      {after : Execution}
      {settlement : Settlement}
      (parallel : step.type = .parallel)
      (fanned : FannedOut before.environment before.context (before.schedule.branches step)
        history branches)
      (settled : Settled branches {} before writes after settlement) :
      Tried before (history ++ ⟨.wait (Branch.longest branches).ticks, ()⟩ :: writes) after
        (some (settlement.outcome step (Branch.longest branches)))

/-- A failed step was tried again within the time that was left, and the retries
were written. -/
structure TriedAgain
    (first : Outcome)
    (before : Execution)
    (clock : Span)
    (calls writes : History)
    (retried : Retried)
    (after : Execution) : Prop where
  within : ∃ remaining, before.remaining? clock = some remaining ∧
    (retryWithin before.environment before.context step input
      (.ofStep step before.environment.settings) first (some remaining.ticks)).Ends calls retried
  written : WrittenAll step input retried.attempts before writes after

/-- What the retries of a failed step lead to. -/
inductive Repeated (first : Outcome) (before : Execution) :
    History → Execution × Flow → Prop
  /-- No time is left for retries. -/
  | late {clock : Span} :
      Repeated first before [⟨.clock, clock⟩]
        (before.note step.id .failed, .finish (.timedOut (some step.id)))
  /-- Time runs out during the retries. -/
  | cut
      {clock : Span}
      {calls writes : History}
      {retried : Retried}
      {after : Execution}
      (again : TriedAgain step input first before clock calls writes retried after)
      (unfinished : retried.outcome = none) :
      Repeated first before (⟨.clock, clock⟩ :: calls ++ writes)
        (after.note step.id .failed, .finish (.timedOut (some step.id)))
  | succeeded
      {clock : Span}
      {calls writes : History}
      {retried : Retried}
      {after : Execution}
      {outcome : Outcome}
      (again : TriedAgain step input first before clock calls writes retried after)
      (closed : retried.outcome = some outcome)
      (success : outcome.succeeded = true) :
      Repeated first before (⟨.clock, clock⟩ :: calls ++ writes) (after.succeed step outcome)
  /-- Every retry fails. -/
  | failed
      {clock : Span}
      {calls writes : History}
      {retried : Retried}
      {after : Execution}
      {outcome : Outcome}
      (again : TriedAgain step input first before clock calls writes retried after)
      (closed : retried.outcome = some outcome)
      (failure : outcome.succeeded = false) :
      Repeated first before (⟨.clock, clock⟩ :: calls ++ writes)
        (after.note step.id .failed,
          .finish (.failed step.id (.step outcome.result.errorMessage)))

/-- The reaction of an execution to a failed outcome of a step. -/
abbrev reactionTo (execution : Execution) (outcome : Outcome) : Reaction :=
  step.reaction outcome execution.workflow.policy.onFailure execution.schedule

/-- What a failed outcome leads to. -/
inductive Rejected (outcome : Outcome) (condition : Option ConditionError) (before : Execution) :
    History → Execution × Flow → Prop
  | aborted
      {message : String}
      {cause : FailureCause}
      (reaction : reactionTo step before outcome = .abort message) :
      Rejected outcome condition before []
        (before.note step.id .failed, .finish (.failed step.id cause))
  /-- Conditions are not evaluated again. -/
  | unevaluated
      {error : ConditionError}
      (reaction : reactionTo step before outcome = .retry)
      (broken : condition = some error) :
      Rejected outcome condition before []
        (before.note step.id .failed, .finish (.failed step.id (.condition error)))
  | repeated
      {history : History}
      {result : Execution × Flow}
      (reaction : reactionTo step before outcome = .retry)
      (met : condition = none)
      (repeated : Repeated step input outcome before history result) :
      Rejected outcome condition before history result
  | advanced
      (reaction : reactionTo step before outcome = .advance) :
      Rejected outcome condition before [] ((before.note step.id .failed).advance, .goOn)
  | skipped
      (reaction : reactionTo step before outcome = .skip) :
      Rejected outcome condition before [] ((before.note step.id .skipped).advance, .goOn)
  | jumped
      {position : Nat}
      (reaction : reactionTo step before outcome = .jump position) :
      Rejected outcome condition before [] ((before.note step.id .failed).jumpTo position, .goOn)

/-- How a step goes whose conditions hold and whose input is known. -/
inductive Performed (before : Execution) : History → Execution × Flow → Prop
  /-- No time is left for the step. -/
  | late {clock : Span} :
      Performed before [⟨.clock, clock⟩] (before, .finish (.timedOut (some step.id)))
  /-- Time runs out during the first attempt. -/
  | interrupted
      {clock duration : Span}
      {startedAt : Timestamp}
      {trying writing : History}
      {middle after : Execution}
      (tried : Tried step input before trying middle none)
      (written : Written step input startedAt 0
        { Outcome.failed "interrupted by execution timeout" false with duration }
        middle writing after) :
      Performed before (⟨.clock, clock⟩ :: ⟨.now, startedAt⟩ :: trying ++ writing)
        (after.note step.id .failed, .finish (.timedOut (some step.id)))
  | succeeded
      {clock : Span}
      {startedAt : Timestamp}
      {trying writing : History}
      {middle after : Execution}
      {outcome : Outcome}
      (tried : Tried step input before trying middle (some outcome))
      (written : Written step input startedAt 0 outcome middle writing after)
      (success : outcome.succeeded = true) :
      Performed before (⟨.clock, clock⟩ :: ⟨.now, startedAt⟩ :: trying ++ writing)
        (after.succeed step outcome)
  | failed
      {clock : Span}
      {startedAt : Timestamp}
      {trying writing rest : History}
      {middle after : Execution}
      {outcome : Outcome}
      {result : Execution × Flow}
      (tried : Tried step input before trying middle (some outcome))
      (written : Written step input startedAt 0 outcome middle writing after)
      (failure : outcome.succeeded = false)
      (rejected : Rejected step input outcome none after rest result) :
      Performed before (⟨.clock, clock⟩ :: ⟨.now, startedAt⟩ :: trying ++ writing ++ rest) result

end

/-- How the conditions of a step come out. -/
abbrev conditionsOf (execution : Execution) (step : Step) : Except ConditionError Bool :=
  Condition.evaluateAll execution.context.semantics step.conditions
    (.object execution.context.data)

/-- How an execution visits a step. -/
inductive Visited (step : Step) (before : Execution) : History → Execution × Flow → Prop
  | skipped
      (refused : before.conditionsOf step = .ok false) :
      Visited step before [] ((before.note step.id .skipped).advance, .goOn)
  | unevaluated
      {error : ConditionError}
      {startedAt : Timestamp}
      {writing rest : History}
      {middle : Execution}
      {result : Execution × Flow}
      (broken : before.conditionsOf step = .error error)
      (written : Written step [] startedAt 0
        (.failed (EngineError.conditionEvaluation error).message true) before writing middle)
      (rejected : Rejected step []
        (.failed (EngineError.conditionEvaluation error).message true) (some error)
        middle rest result) :
      Visited step before (⟨.now, startedAt⟩ :: writing ++ rest) result
  | unresolved
      {missing : MissingInput}
      {startedAt : Timestamp}
      {writing rest : History}
      {middle : Execution}
      {result : Execution × Flow}
      (met : before.conditionsOf step = .ok true)
      (unresolved : step.resolveInput before.context = .error missing)
      (written : Written step [] startedAt 0 (.failed missing.message false)
        before writing middle)
      (rejected : Rejected step [] (.failed missing.message false) none middle rest result) :
      Visited step before (⟨.now, startedAt⟩ :: writing ++ rest) result
  | performed
      {input : Object}
      {history : History}
      {result : Execution × Flow}
      (met : before.conditionsOf step = .ok true)
      (resolved : step.resolveInput before.context = .ok input)
      (performed : Performed step input before history result) :
      Visited step before history result

/-! ## What the programs do -/

section

variable {execution : Execution} {step : Step} {input : Object}

/-- Whoever makes a first attempt to the end leaves the history of one. -/
theorem tried_of_ends
    {limit : Span}
    {history : History}
    {after : Execution}
    {outcome : Option Outcome}
    (ends : (execution.firstAttempt step input limit).Ends history (after, outcome)) :
    Tried step input execution history after outcome := by
  unfold firstAttempt at ends
  split at ends
  next parallel =>
    obtain ⟨branches, _, _, rfl, waited, continued⟩ := Program.Ends.of_bind ends
    obtain ⟨before, branches, fanned, ⟨rfl, rfl⟩ | ⟨millis, short, rfl, rfl⟩⟩ :=
      ends_fanOutWithin waited
    · obtain ⟨⟨middle, settlement⟩, _, _, rfl, settled, last⟩ := continued.of_bind
      obtain ⟨rfl, tried⟩ := last.of_done
      cases tried
      rw [List.append_nil, List.append_assoc, List.singleton_append]
      exact .fanned parallel fanned (settled_of_ends settled)
    · obtain ⟨rfl, tried⟩ := continued.of_done
      cases tried
      rw [List.append_nil]
      exact .overrun parallel fanned short
  next single =>
    obtain ⟨result, _, _, rfl, attempted, continued⟩ := Program.Ends.of_bind ends
    have attempted := attempted_of_ends attempted
    cases result with
    | none =>
      obtain ⟨rfl, tried⟩ := continued.of_done
      cases tried
      rw [List.append_nil]
      exact .attempted single attempted
    | some result =>
      obtain ⟨rfl, tried⟩ := continued.of_done
      cases tried
      rw [List.append_nil]
      exact .attempted single attempted

/-- Whoever goes through with a series of retries leaves the history of one. -/
theorem repeated_of_ends
    {first : Outcome}
    {history : History}
    {result : Execution × Flow}
    (ends : (execution.retry step input first).Ends history result) :
    Repeated step input first execution history result := by
  obtain ⟨clock, _, rfl, timed⟩ := Program.Ends.of_request ends
  split at timed
  next =>
    obtain ⟨rfl, rfl⟩ := timed.of_done
    exact .late
  next remaining timely =>
    obtain ⟨retried, _, _, rfl, retries, writing⟩ := timed.of_bind
    obtain ⟨after, _, _, rfl, written, judged⟩ := writing.of_bind
    have again := TriedAgain.mk ⟨remaining, timely, retries⟩ (writtenAll_of_ends written)
    split at judged
    next unfinished =>
      obtain ⟨rfl, rfl⟩ := judged.of_done
      rw [List.append_nil]
      exact .cut again unfinished
    next outcome closed =>
      split at judged
      next success =>
        obtain ⟨rfl, rfl⟩ := judged.of_done
        rw [List.append_nil]
        exact .succeeded again closed success
      next failure =>
        obtain ⟨rfl, rfl⟩ := judged.of_done
        rw [List.append_nil]
        exact .failed again closed (by simpa using failure)

/-- Whoever reacts to a failure does what its reaction asks for. -/
theorem rejected_of_ends
    {outcome : Outcome}
    {condition : Option ConditionError}
    {history : History}
    {result : Execution × Flow}
    (ends : (execution.fail step input outcome condition).Ends history result) :
    Rejected step input outcome condition execution history result := by
  unfold fail at ends
  dsimp only at ends
  split at ends
  next reaction =>
    obtain ⟨rfl, rfl⟩ := ends.of_done
    exact .aborted reaction
  next reaction =>
    obtain ⟨rfl, rfl⟩ := ends.of_done
    exact .unevaluated reaction rfl
  next reaction =>
    exact .repeated reaction rfl (repeated_of_ends ends)
  next reaction =>
    obtain ⟨rfl, rfl⟩ := ends.of_done
    exact .advanced reaction
  next reaction =>
    obtain ⟨rfl, rfl⟩ := ends.of_done
    exact .skipped reaction
  next reaction =>
    obtain ⟨rfl, rfl⟩ := ends.of_done
    exact .jumped reaction

/-- Whoever performs a step does it in one of four ways. -/
theorem performed_of_ends
    {history : History}
    {result : Execution × Flow}
    (ends : (execution.perform step input).Ends history result) :
    Performed step input execution history result := by
  obtain ⟨clock, _, rfl, timed⟩ := Program.Ends.of_request ends
  split at timed
  next =>
    obtain ⟨rfl, rfl⟩ := timed.of_done
    exact .late
  next remaining _ =>
    obtain ⟨startedAt, _, rfl, started⟩ := timed.of_request
    obtain ⟨⟨middle, outcome⟩, _, _, rfl, tried, continued⟩ := started.of_bind
    have tried := tried_of_ends tried
    cases outcome with
    | none =>
      obtain ⟨after, _, _, rfl, written, last⟩ := continued.of_bind
      obtain ⟨rfl, rfl⟩ := last.of_done
      rw [List.append_nil]
      exact .interrupted tried (written_of_ends written)
    | some outcome =>
      obtain ⟨after, writing, _, rfl, written, judged⟩ := continued.of_bind
      have written := written_of_ends written
      split at judged
      next success =>
        obtain ⟨rfl, rfl⟩ := judged.of_done
        rw [List.append_nil]
        exact .succeeded tried written success
      next failure =>
        rw [← List.append_assoc]
        exact .failed tried written (by simpa using failure) (rejected_of_ends judged)

/-- Whoever runs a step visits it in one of four ways. -/
theorem visited_of_ends
    {history : History}
    {result : Execution × Flow}
    (ends : (execution.runStep step).Ends history result) :
    Visited step execution history result := by
  unfold runStep at ends
  split at ends
  next refused =>
    obtain ⟨rfl, rfl⟩ := ends.of_done
    exact .skipped refused
  next error broken =>
    obtain ⟨middle, _, rest, rfl, timed, rejected⟩ := Program.Ends.of_bind ends
    obtain ⟨startedAt, writing, rfl, written⟩ := Program.Ends.of_request timed
    exact .unevaluated broken (written_of_ends written) (rejected_of_ends rejected)
  next met =>
    split at ends
    next missing unresolved =>
      obtain ⟨middle, _, rest, rfl, timed, rejected⟩ := Program.Ends.of_bind ends
      obtain ⟨startedAt, writing, rfl, written⟩ := Program.Ends.of_request timed
      exact .unresolved met unresolved (written_of_ends written) (rejected_of_ends rejected)
    next input resolved =>
      exact .performed met resolved (performed_of_ends ends)

/-- The series that was tried follows the policy of its step. -/
theorem TriedAgain.retries
    {first : Outcome}
    {after : Execution}
    {clock : Span}
    {calls writes : History}
    {retried : Retried}
    (again : TriedAgain step input first execution clock calls writes retried after) :
    Retries execution.environment execution.context step input
      (.ofStep step execution.environment.settings)
      (RetryPolicy.ofStep step execution.environment.settings).maxRetries 1 first
      calls retried := by
  obtain ⟨remaining, -, ends⟩ := again.within
  exact retries_of_ends ends

end

/-! ## Requests of a visit -/

section

variable (execution : Execution) (step : Step)

/-- A first attempt makes no request but those of a visit. -/
theorem firstAttempt_uses (input : Object) (limit : Span) :
    (execution.firstAttempt step input limit).Uses Request.isVisit := by
  unfold firstAttempt
  split
  · refine ((fanOutWithin_uses _ _).mono Request.isVisit_of_isDispatch).bind fun branches => ?_
    cases branches with
    | none => trivial
    | some branches =>
      refine ((settleBranches_uses _ _ _).mono Request.isVisit_of_isWriting).bind fun settled => ?_
      trivial
  · refine ((attemptWithin_uses _).mono Request.isVisit_of_isDispatch).bind fun result => ?_
    cases result <;> trivial

theorem retry_uses (input : Object) (first : Outcome) :
    (execution.retry step input first).Uses Request.isVisit := by
  refine Program.Uses.request rfl fun clock => ?_
  split
  · trivial
  · refine ((retryFrom_uses _ _ _ _ _).mono Request.isVisit_of_isDispatch).bind fun retried => ?_
    refine ((writeRetries_uses _ _).mono Request.isVisit_of_isWriting).bind fun after => ?_
    split
    · trivial
    · split <;> trivial

theorem fail_uses (input : Object) (outcome : Outcome) (condition : Option ConditionError) :
    (execution.fail step input outcome condition).Uses Request.isVisit := by
  unfold fail
  dsimp only
  split
  case h_3 => exact retry_uses execution step input outcome
  all_goals trivial

/-- To perform a step takes no request but those of a visit. -/
theorem perform_uses (input : Object) :
    (execution.perform step input).Uses Request.isVisit := by
  refine Program.Uses.request rfl fun clock => ?_
  split
  · trivial
  · refine .request rfl fun startedAt => ?_
    refine (firstAttempt_uses execution step input _).bind fun tried => ?_
    obtain ⟨middle, outcome⟩ := tried
    cases outcome with
    | none =>
      exact ((write_uses _ _ _).mono Request.isVisit_of_isWriting).bind fun after => trivial
    | some outcome =>
      refine ((write_uses _ _ _).mono Request.isVisit_of_isWriting).bind fun after => ?_
      split
      · trivial
      · exact fail_uses after step input outcome none

/-- A visit stores no record of its execution and makes no event known. -/
theorem runStep_uses : (execution.runStep step).Uses Request.isVisit := by
  unfold runStep
  split
  · trivial
  · refine ((writeNow_uses _).mono Request.isVisit_of_isWriting).bind fun middle => ?_
    exact fail_uses middle step [] _ _
  · split
    · refine ((writeNow_uses _).mono Request.isVisit_of_isWriting).bind fun middle => ?_
      exact fail_uses middle step [] _ _
    · exact perform_uses execution step _

end

/-! ## Calls and records -/

section

variable
  {step : Step}
  {input : Object}
  {before middle after : Execution}
  {startedAt : Timestamp}
  {outcome : Outcome}
  {writing : History}

/-- Retries call their handlers before anything is written. -/
theorem TriedAgain.invocations_eq
    {clock : Span}
    {calls : History}
    {retried : Retried}
    (again : TriedAgain step input outcome before clock calls writing retried after) :
    History.invocations (⟨.clock, clock⟩ :: calls ++ writing) = calls.invocations := by
  rw [History.invocations_append, again.written.invocations_eq_nil, List.append_nil]
  rfl

/-- All that is recorded of retries is what is written behind them. -/
theorem TriedAgain.attempts_eq
    {clock : Span}
    {calls : History}
    {retried : Retried}
    (again : TriedAgain step input outcome before clock calls writing retried after) :
    History.attempts (⟨.clock, clock⟩ :: calls ++ writing) = writing.attempts := by
  have unwritten : History.attempts (⟨.clock, clock⟩ :: calls) = [] :=
    again.retries.attempts_eq_nil
  rw [History.attempts_append, unwritten, List.nil_append]

/-- A first attempt calls its handlers before anything is written as well. -/
theorem Written.invocations_tried
    (written : Written step input startedAt 0 outcome middle writing after)
    (clock : Span)
    (trying : History) :
    History.invocations (⟨.clock, clock⟩ :: ⟨.now, startedAt⟩ :: trying ++ writing) =
      trying.invocations := by
  rw [History.invocations_append, written.invocations_eq_nil, List.append_nil]
  rfl

/-- Where there is no first attempt, all calls come after what is written. -/
theorem Written.invocations_untried
    (written : Written step input startedAt 0 outcome before writing middle)
    (rest : History) :
    History.invocations (⟨.now, startedAt⟩ :: writing ++ rest) = rest.invocations := by
  have silent : History.invocations (⟨.now, startedAt⟩ :: writing) = [] :=
    written.invocations_eq_nil
  rw [History.invocations_append, silent, List.nil_append]

end

/-! ## Progress -/

section

variable
  {step : Step}
  {input : Object}
  {before after : Execution}
  {history : History}
  {result : Execution × Flow}

/-- An execution only evolves by a first attempt. -/
theorem Tried.evolves
    {outcome : Option Outcome}
    (tried : Tried step input before history after outcome) :
    before.Evolves after := by
  cases tried with
  | attempted => exact .refl
  | overrun => exact .refl
  | fanned _ _ settled => exact settled.evolves

theorem Tried.continues
    {outcome : Option Outcome}
    (tried : Tried step input before history after outcome) :
    before.Continues after :=
  tried.evolves.continues

theorem Repeated.evolves
    {first : Outcome}
    (repeated : Repeated step input first before history result) :
    before.Evolves result.1 := by
  cases repeated with
  | late => exact evolves_note _ _ _
  | cut again => exact again.written.evolves.trans (evolves_note _ _ _)
  | succeeded again => exact again.written.evolves.trans (evolves_succeed _ _ _)
  | failed again => exact again.written.evolves.trans (evolves_note _ _ _)

/-- An execution only evolves by the reaction to a failure. -/
theorem Rejected.evolves
    {outcome : Outcome}
    {condition : Option ConditionError}
    (rejected : Rejected step input outcome condition before history result) :
    before.Evolves result.1 := by
  cases rejected with
  | aborted => exact evolves_note _ _ _
  | unevaluated => exact evolves_note _ _ _
  | repeated _ _ repeated => exact repeated.evolves
  | advanced => exact (evolves_note _ _ _).trans (evolves_advance _)
  | skipped => exact (evolves_note _ _ _).trans (evolves_advance _)
  | jumped => exact (evolves_note _ _ _).trans (evolves_jumpTo _ _)

theorem Performed.evolves
    (performed : Performed step input before history result) :
    before.Evolves result.1 := by
  cases performed with
  | late => exact .refl
  | interrupted tried written =>
    exact (tried.evolves.trans written.evolves).trans (evolves_note _ _ _)
  | succeeded tried written =>
    exact (tried.evolves.trans written.evolves).trans (evolves_succeed _ _ _)
  | failed tried written _ rejected =>
    exact (tried.evolves.trans written.evolves).trans rejected.evolves

/-- An execution only evolves by a visit. -/
theorem Visited.evolves
    (visited : Visited step before history result) :
    before.Evolves result.1 := by
  cases visited with
  | skipped => exact (evolves_note _ _ _).trans (evolves_advance _)
  | unevaluated _ written rejected => exact written.evolves.trans rejected.evolves
  | unresolved _ _ written rejected => exact written.evolves.trans rejected.evolves
  | performed _ _ performed => exact performed.evolves

theorem Visited.continues
    (visited : Visited step before history result) :
    before.Continues result.1 :=
  visited.evolves.continues

end

end Execution
end WorkflowEngine
