import WorkflowEngine.Proofs.Reaction
import WorkflowEngine.Proofs.Run

/-!
# Raised errors of critical steps

An error that the first attempt at a critical step raises ends the execution at
once.  One that a retry raises may still be followed by a retry that succeeds,
and one that a branch of a parallel step raises is left to the action of the
parallel step.
-/

namespace WorkflowEngine

/-- An error is a failure. -/
theorem Reply.succeeded_of_raised
    {reply : Reply}
    (raised : reply.outcome.raised = true) :
    reply.outcome.succeeded = false := by
  unfold outcome at raised ⊢
  split
  next answered =>
    rw [answered] at raised
    cases raised
  next => rfl

/-! ## Retries -/

section

variable
  {environment : Environment}
  {context : Context}
  {step : Step}
  {input : Object}

/-- An attempt that calls a handler calls it once and has its outcome. -/
theorem Attempted.exists_reply
    {history : History}
    {result : Option Outcome}
    (attempted : Attempted environment context step input history result)
    (dispatched : Dispatch.ofStep environment context step input =
      .call ⟨step, input, context⟩) :
    ∃ reply, history.invocations = [(⟨step, input, context⟩, reply)] ∧
      ∀ outcome ∈ result, outcome = reply.outcome := by
  cases attempted with
  | settled settled =>
    rw [dispatched] at settled
    cases settled
  | answered => exact ⟨_, rfl, by simp⟩
  | cut => exact ⟨_, rfl, by simp⟩

/-- The only call of an attempt settles its outcome. -/
theorem Attempted.of_call
    {history : History}
    {result : Option Outcome}
    {earlier later : List (Invocation × Reply)}
    {invocation : Invocation}
    {reply : Reply}
    (attempted : Attempted environment context step input history result)
    (parts : history.invocations = earlier ++ (invocation, reply) :: later) :
    invocation = ⟨step, input, context⟩ ∧ later = [] ∧
      Dispatch.ofStep environment context step input = .call ⟨step, input, context⟩ ∧
      ∀ outcome ∈ result, outcome = reply.outcome := by
  have dispatched : Dispatch.ofStep environment context step input = .call invocation :=
    attempted.dispatched (by rw [parts]; exact List.mem_append_right _ List.mem_cons_self)
  obtain rfl := Dispatch.call_eq dispatched
  obtain ⟨other, only, same⟩ := attempted.exists_reply dispatched
  rw [only] at parts
  cases earlier with
  | nil =>
    simp only [List.nil_append, List.cons_eq_cons, Prod.mk.injEq, true_and] at parts
    obtain ⟨rfl, rfl⟩ := parts
    exact ⟨rfl, rfl, dispatched, same⟩
  | cons => simp at parts

/-- Retries fail if all their calls do. -/
theorem Retries.failed_iff
    {policy : RetryPolicy}
    {remaining number : Nat}
    {previous : Outcome}
    {history : History}
    {retried : Retried}
    (retries : Retries environment context step input policy remaining number previous
      history retried)
    (dispatched : Dispatch.ofStep environment context step input =
      .call ⟨step, input, context⟩) :
    ∀ outcome ∈ retried.outcome, outcome.succeeded = false ↔
      ∀ called ∈ history.invocations, called.2.outcome.succeeded = false := by
  induction retries with
  | exhausted =>
    rintro _ ⟨rfl⟩
    simp [RetryPolicy.exhausted, Outcome.succeeded, StepResult.fail]
  | late => simp
  | cut => simp
  | succeeded attempted success =>
    rintro _ ⟨rfl⟩
    obtain ⟨reply, calls, same⟩ := attempted.exists_reply dispatched
    simp [Exchange.invocation?, calls, same _ rfl]
  | failed attempted failure _ inductionHypothesis =>
    intro outcome closed
    obtain ⟨reply, calls, same⟩ := attempted.exists_reply dispatched
    rw [same _ rfl] at failure
    rw [inductionHypothesis outcome closed]
    simp [Exchange.invocation?, calls, failure]

/-- Behind a call that has failed, retries fail if all their further calls
do. -/
theorem Retries.failed_iff_later
    {policy : RetryPolicy}
    {remaining number : Nat}
    {previous : Outcome}
    {history : History}
    {retried : Retried}
    {earlier later : List (Invocation × Reply)}
    {invocation : Invocation}
    {reply : Reply}
    (retries : Retries environment context step input policy remaining number previous
      history retried)
    (parts : history.invocations = earlier ++ (invocation, reply) :: later)
    (failure : reply.outcome.succeeded = false) :
    ∀ outcome ∈ retried.outcome, outcome.succeeded = false ↔
      ∀ called ∈ later, called.2.outcome.succeeded = false := by
  induction retries generalizing earlier with
  | exhausted => simp at parts
  | late => simp
  | cut => simp
  | @succeeded _ _ _ outcome _ calls attempted success =>
    have parts : calls.invocations = earlier ++ (invocation, reply) :: later := parts
    obtain ⟨-, -, -, same⟩ := attempted.of_call parts
    rw [same outcome rfl, failure] at success
    cases success
  | @failed _ _ _ outcome _ calls rest _ attempted _ followed inductionHypothesis =>
    have parts : calls.invocations ++ rest.invocations =
        earlier ++ (invocation, reply) :: later := by
      rw [← parts, ← History.invocations_append]
      rfl
    -- The call is that of this retry, or of one behind it.
    rcases History.split_append parts with ⟨middle, first, rfl⟩ | ⟨middle, -, last⟩
    · obtain ⟨-, rfl, dispatched, -⟩ := attempted.of_call first
      exact followed.failed_iff dispatched
    · exact inductionHypothesis last

end

/-! ## Fan-outs -/

/-- A branch has failed, and it was with an error. -/
def Execution.Settlement.IsRaised (settlement : Execution.Settlement) : Prop :=
  settlement.raised = true ∧ settlement.failures ≠ []

namespace Execution

section

variable {settlement final : Settlement} {step : Step} {outcome : Outcome}

theorem Settlement.IsRaised.add
    (raised : settlement.IsRaised)
    (step : Step)
    (outcome : Outcome) :
    (settlement.add step outcome).IsRaised := by
  obtain ⟨raised, failures⟩ := raised
  constructor
  · simp [Settlement.add, raised]
  · unfold Settlement.add
    dsimp only
    split
    · exact failures
    · simp

theorem Settlement.isRaised_add
    (settlement : Settlement)
    (step : Step)
    (raised : outcome.raised = true)
    (failure : outcome.succeeded = false) :
    (settlement.add step outcome).IsRaised := by
  constructor
  · simp [Settlement.add, raised, failure]
  · simp [Settlement.add, failure]

theorem Settled.isRaised
    {branches : List Branch}
    {before after : Execution}
    {history : History}
    (settled : Settled branches settlement before history after final)
    (raised : settlement.IsRaised) :
    final.IsRaised := by
  induction settled with
  | nil => exact raised
  | skipped _ inductionHypothesis => exact inductionHypothesis raised
  | ran _ _ inductionHypothesis => exact inductionHypothesis (raised.add _ _)

/-- The error of one branch is that of the fan-out. -/
theorem Settled.isRaised_of_branch
    {branches : List Branch}
    {before after : Execution}
    {history : History}
    {input : Object}
    {startedAt : Timestamp}
    (settled : Settled branches settlement before history after final)
    (member : .ran step input startedAt outcome ∈ branches)
    (raised : outcome.raised = true)
    (failure : outcome.succeeded = false) :
    final.IsRaised := by
  induction settled with
  | nil => cases member
  | skipped _ inductionHypothesis =>
    rcases List.mem_cons.mp member with same | member
    · cases same
    · exact inductionHypothesis member
  | ran _ others inductionHypothesis =>
    rcases List.mem_cons.mp member with same | member
    · cases same
      exact others.isRaised (Settlement.isRaised_add _ _ raised failure)
    · exact inductionHypothesis member

theorem Settlement.IsRaised.fails
    (raised : settlement.IsRaised)
    (parent : Step)
    (duration : Span) :
    (settlement.outcome parent duration).succeeded = false ∧
      (settlement.outcome parent duration).raised = true := by
  obtain ⟨raised, failures⟩ := raised
  refine ⟨?_, raised⟩
  unfold Settlement.outcome Outcome.succeeded
  dsimp only
  rw [if_neg (by simpa using failures)]
  rfl

end

/-! ## Visits -/

/-- Whether an execution has failed at a step. -/
def Flow.IsFailed : Flow → Prop
  | .finish (.failed ..) => True
  | _ => False

/-- Whether an execution has run out of time. -/
def Flow.IsTimedOut : Flow → Prop
  | .finish (.timedOut _) => True
  | _ => False

/-- Nothing makes up for the error of a call in the visit of a step: the reaction
to a failed fan-out ends the execution, or else every later call fails as well. -/
def Unforgiven
    (execution : Execution)
    (visited : Step)
    (later : List (Invocation × Reply)) : Prop :=
  if visited.type = .parallel then
    visited.isCritical = true ∨
      visited.effectiveAction execution.workflow.policy.onFailure = .stop ∨
      (visited.effectiveAction execution.workflow.policy.onFailure = .goto ∧
        visited.failure.fallbackStep.bind execution.schedule.position? = none)
  else ∀ called ∈ later, called.2.outcome.succeeded = false

/-- What the error of a call for a step brings about in the visit of a step. -/
structure Consequence
    (execution : Execution)
    (visited raising : Step)
    (later : List (Invocation × Reply))
    (flow : Flow) : Prop where
  confined : ∀ called ∈ later, called.1.step = raising ∨
    (visited.type = .parallel ∧ called.1.step ∈ execution.schedule.branches visited)
  fails_iff : flow.IsFailed ↔ ¬ flow.IsTimedOut ∧ execution.Unforgiven visited later

/-- Apart from fan-outs it does not matter where the visit began. -/
theorem Consequence.of_single
    {before middle : Execution}
    {visited raising : Step}
    {later : List (Invocation × Reply)}
    {flow : Flow}
    (consequence : middle.Consequence visited raising later flow)
    (single : visited.type ≠ .parallel) :
    before.Consequence visited raising later flow := by
  obtain ⟨confined, fails⟩ := consequence
  refine ⟨fun called member => .inl ?_, ?_⟩
  · exact (confined called member).resolve_right fun listed => single listed.1
  · unfold Unforgiven at fails ⊢
    rw [if_neg single] at fails ⊢
    exact fails

section

variable
  {step : Step}
  {input : Object}
  {before after : Execution}
  {history : History}
  {result : Execution × Flow}
  {earlier later : List (Invocation × Reply)}
  {invocation : Invocation}
  {reply : Reply}

/-- A success neither fails nor runs out of time. -/
theorem flow_succeed (execution : Execution) (step : Step) (outcome : Outcome) :
    ¬ (execution.succeed step outcome).2.IsFailed ∧
      ¬ (execution.succeed step outcome).2.IsTimedOut := by
  unfold succeed
  dsimp only
  split
  · exact ⟨id, id⟩
  · split <;> exact ⟨id, id⟩

theorem TriedAgain.step_of_call
    {first : Outcome}
    {clock : Span}
    {calls writes : History}
    {retried : Retried}
    (again : TriedAgain step input first before clock calls writes retried after) :
    ∀ called ∈ calls.invocations, called.1.step = step := by
  intro called member
  rw [Dispatch.call_eq (again.retries.dispatched member)]

/-- Behind an error in the retries, only a later retry makes up for it. -/
theorem TriedAgain.failed_iff
    {first : Outcome}
    {clock : Span}
    {calls writes : History}
    {retried : Retried}
    (again : TriedAgain step input first before clock calls writes retried after)
    (parts : calls.invocations = earlier ++ (invocation, reply) :: later)
    (failure : reply.outcome.succeeded = false)
    (single : step.type ≠ .parallel) :
    ∀ outcome ∈ retried.outcome, outcome.succeeded = false ↔ before.Unforgiven step later := by
  unfold Unforgiven
  rw [if_neg single]
  exact again.retries.failed_iff_later parts failure

theorem TriedAgain.confined
    {first : Outcome}
    {clock : Span}
    {calls writes : History}
    {retried : Retried}
    (again : TriedAgain step input first before clock calls writes retried after)
    (parts : calls.invocations = earlier ++ (invocation, reply) :: later) :
    ∀ called ∈ later, called.1.step = invocation.step := by
  intro called member
  have raising : invocation.step = step :=
    again.step_of_call (invocation, reply) (by simp [parts])
  rw [raising]
  exact again.step_of_call called (by simp [parts, member])

theorem Repeated.consequence
    {first : Outcome}
    (repeated : Repeated step input first before history result)
    (parts : history.invocations = earlier ++ (invocation, reply) :: later)
    (failure : reply.outcome.succeeded = false)
    (single : step.type ≠ .parallel) :
    before.Consequence step invocation.step later result.2 := by
  cases repeated with
  | late => simp [Exchange.invocation?] at parts
  | cut again =>
    rw [again.invocations_eq] at parts
    refine ⟨fun called member => .inl (again.confined parts called member), ?_⟩
    simp [Flow.IsFailed, Flow.IsTimedOut]
  | succeeded again closed success =>
    rw [again.invocations_eq] at parts
    refine ⟨fun called member => .inl (again.confined parts called member), ?_⟩
    rw [← again.failed_iff parts failure single _ closed, success]
    simpa using (flow_succeed _ _ _).1
  | failed again closed failed =>
    rw [again.invocations_eq] at parts
    refine ⟨fun called member => .inl (again.confined parts called member), ?_⟩
    rw [← again.failed_iff parts failure single _ closed]
    simp [Flow.IsFailed, Flow.IsTimedOut, failed]

/-- Only the retries of a rejected step call handlers. -/
theorem Rejected.consequence
    {outcome : Outcome}
    {condition : Option ConditionError}
    (rejected : Rejected step input outcome condition before history result)
    (parts : history.invocations = earlier ++ (invocation, reply) :: later)
    (failure : reply.outcome.succeeded = false) :
    step.type ≠ .parallel ∧ before.Consequence step invocation.step later result.2 := by
  cases rejected with
  | repeated reaction _ repeated =>
    have again := (Step.reaction_eq_retry_iff.mp reaction).2
    have single := Step.type_ne_parallel_of_effectiveAction again
    exact ⟨single, repeated.consequence parts failure single⟩
  | _ => simp at parts

/-- A first attempt with an error fails with an error. -/
theorem Tried.raises
    {outcome : Outcome}
    (tried : Tried step input before history after (some outcome))
    (parts : history.invocations = earlier ++ (invocation, reply) :: later)
    (raised : reply.outcome.raised = true) :
    outcome.succeeded = false ∧ outcome.raised = true := by
  have failure := Reply.succeeded_of_raised raised
  cases tried with
  | attempted _ attempted =>
    obtain ⟨-, -, -, same⟩ := attempted.of_call parts
    rw [same outcome rfl]
    exact ⟨failure, raised⟩
  | @fanned calls _ _ _ _ _ fanned settled =>
    have parts : calls.invocations = earlier ++ (invocation, reply) :: later := by
      simpa [Exchange.invocation?, settled.invocations_eq_nil] using parts
    obtain ⟨_, _, _, _, _, _, ran⟩ := fanned.branch_of_call (by
      rw [parts]
      exact List.mem_append_right _ List.mem_cons_self)
    exact (settled.isRaised_of_branch ran raised failure).fails _ _

/-- A first attempt calls one handler, or those of the branches of a fan-out. -/
theorem Tried.calls
    {outcome : Option Outcome}
    (tried : Tried step input before history after outcome)
    (parts : history.invocations = earlier ++ (invocation, reply) :: later) :
    (step.type ≠ .parallel ∧ invocation.step = step ∧ later = []) ∨
      (step.type = .parallel ∧
        ∀ called ∈ later, called.1.step ∈ before.schedule.branches step) := by
  cases tried with
  | attempted single attempted =>
    obtain ⟨rfl, rfl, -⟩ := attempted.of_call parts
    exact .inl ⟨single, rfl, rfl⟩
  | @overrun calls _ _ parallel fanned =>
    have parts : calls.invocations = earlier ++ (invocation, reply) :: later := by
      simpa [Exchange.invocation?] using parts
    refine .inr ⟨parallel, fun called member => fanned.mem_steps_of_call ?_⟩
    simp [parts, member]
  | @fanned calls _ _ _ _ parallel fanned settled =>
    have parts : calls.invocations = earlier ++ (invocation, reply) :: later := by
      simpa [Exchange.invocation?, settled.invocations_eq_nil] using parts
    refine .inr ⟨parallel, fun called member => fanned.mem_steps_of_call ?_⟩
    simp [parts, member]

theorem Tried.confined
    {outcome : Option Outcome}
    (tried : Tried step input before history after outcome)
    (parts : history.invocations = earlier ++ (invocation, reply) :: later) :
    ∀ called ∈ later, called.1.step = invocation.step ∨
      (step.type = .parallel ∧ called.1.step ∈ before.schedule.branches step) := by
  rcases tried.calls parts with ⟨-, -, rfl⟩ | ⟨parallel, listed⟩
  · simp
  · exact fun called member => .inr ⟨parallel, listed called member⟩

/-- A step that is not tried again fails exactly if the reaction aborts. -/
theorem Rejected.isFailed_iff
    {outcome : Outcome}
    (rejected : Rejected step input outcome none before history result)
    (final : reactionTo step before outcome ≠ .retry) :
    history = [] ∧ ¬ result.2.IsTimedOut ∧
      (result.2.IsFailed ↔ ∃ message, reactionTo step before outcome = .abort message) := by
  cases rejected with
  | aborted reaction => exact ⟨rfl, id, by simp [Flow.IsFailed, reaction]⟩
  | unevaluated _ broken => cases broken
  | repeated reaction => exact (final reaction).elim
  | advanced reaction => exact ⟨rfl, id, by simp [Flow.IsFailed, reaction]⟩
  | skipped reaction => exact ⟨rfl, id, by simp [Flow.IsFailed, reaction]⟩
  | jumped reaction => exact ⟨rfl, id, by simp [Flow.IsFailed, reaction]⟩

/-- The error of a first attempt ends the execution, or it is left to the reaction
of a parallel step. -/
theorem Rejected.consequence_of_raised
    {middle : Execution}
    {outcome : Outcome}
    (rejected : Rejected step input outcome none middle history result)
    (continues : before.Continues middle)
    (raised : outcome.raised = true)
    (origin : (step.isCritical = true ∧ step.type ≠ .parallel ∧ later = []) ∨
      step.type = .parallel) :
    history = [] ∧ (result.2.IsFailed ↔
      ¬ result.2.IsTimedOut ∧ before.Unforgiven step later) := by
  have aborts : (∃ message, reactionTo step middle outcome = .abort message) ↔
      before.Unforgiven step later := by
    rw [Step.exists_reaction_eq_abort_iff, raised, Bool.and_true, continues.workflow,
      continues.schedule.position?_eq]
    unfold Unforgiven
    rcases origin with ⟨critical, single, rfl⟩ | parallel
    · rw [if_neg single]
      simp [critical]
    · rw [if_pos parallel]
  have final : reactionTo step middle outcome ≠ .retry := by
    intro retried
    obtain ⟨tolerable, repeated⟩ := Step.reaction_eq_retry_iff.mp retried
    rcases origin with ⟨critical, -⟩ | parallel
    · simp [critical, raised] at tolerable
    · exact Step.type_ne_parallel_of_effectiveAction repeated parallel
  obtain ⟨silent, timely, fails⟩ := rejected.isFailed_iff final
  refine ⟨silent, ?_⟩
  rw [fails, aborts]
  exact ⟨fun unforgiven => ⟨timely, unforgiven⟩, And.right⟩

theorem Performed.consequence
    (performed : Performed step input before history result)
    (parts : history.invocations = earlier ++ (invocation, reply) :: later)
    (critical : invocation.step.isCritical = true)
    (raised : reply.outcome.raised = true) :
    before.Consequence step invocation.step later result.2 := by
  cases performed with
  | late => simp [Exchange.invocation?] at parts
  | interrupted tried written =>
    rw [written.invocations_tried] at parts
    exact ⟨tried.confined parts, by simp [Flow.IsFailed, Flow.IsTimedOut]⟩
  | succeeded tried written success =>
    rw [written.invocations_tried] at parts
    obtain ⟨failure, -⟩ := tried.raises parts raised
    rw [success] at failure
    cases failure
  | failed tried written failure rejected =>
    rw [History.invocations_append, written.invocations_tried] at parts
    -- Only the first attempt comes under the override for critical steps.
    rcases History.split_append parts with ⟨middle, first, rfl⟩ | ⟨middle, -, last⟩
    · obtain ⟨-, raises⟩ := tried.raises first raised
      have continues := tried.continues.trans written.continues
      rcases tried.calls first with ⟨single, same, rfl⟩ | ⟨parallel, listed⟩
      · rw [same] at critical
        obtain ⟨rfl, fails⟩ := rejected.consequence_of_raised continues raises
          (.inl ⟨critical, single, rfl⟩)
        exact ⟨by simp, fails⟩
      · obtain ⟨rfl, fails⟩ := rejected.consequence_of_raised continues raises (.inr parallel)
        rw [History.invocations_nil, List.append_nil]
        exact ⟨fun called member => .inr ⟨parallel, listed called member⟩, fails⟩
    · obtain ⟨single, consequence⟩ := rejected.consequence last (Reply.succeeded_of_raised raised)
      exact consequence.of_single single

theorem Visited.consequence
    (visited : Visited step before history result)
    (parts : history.invocations = earlier ++ (invocation, reply) :: later)
    (critical : invocation.step.isCritical = true)
    (raised : reply.outcome.raised = true) :
    before.Consequence step invocation.step later result.2 := by
  have failure := Reply.succeeded_of_raised raised
  cases visited with
  | skipped => simp at parts
  | unevaluated _ written rejected =>
    rw [written.invocations_untried] at parts
    obtain ⟨single, consequence⟩ := rejected.consequence parts failure
    exact consequence.of_single single
  | unresolved _ _ written rejected =>
    rw [written.invocations_untried] at parts
    obtain ⟨single, consequence⟩ := rejected.consequence parts failure
    exact consequence.of_single single
  | performed _ _ performed => exact performed.consequence parts critical raised

/-- A turn in which a handler raises an error is the visit of a step. -/
theorem Acted.consequence
    (acted : Acted before history result)
    (parts : history.invocations = earlier ++ (invocation, reply) :: later)
    (critical : invocation.step.isCritical = true)
    (raised : reply.outcome.raised = true) :
    ∃ visited, before.schedule.current? = some visited ∧
      before.Consequence visited invocation.step later result.2 := by
  cases acted with
  | idle kept => simp [kept.invocations_eq_nil] at parts
  | exhausted kept => simp [kept.invocations_eq_nil] at parts
  | late kept => simp [kept.invocations_eq_nil] at parts
  | @visited step _ visit _ _ _ _ opened current visited _ synced =>
    have parts : visit.invocations = earlier ++ (invocation, reply) :: later := by
      simpa [opened.invocations_eq_nil, synced.invocations_eq_nil] using parts
    obtain ⟨confined, fails⟩ := visited.consequence parts critical raised
    unfold Unforgiven at fails
    rw [opened.schedule] at confined fails
    rw [opened.workflow] at fails
    exact ⟨step, current, confined, fails⟩

end

/-- Where a handler of a critical step raises an error, the visit of the step is one turn
of the run, and it goes on with nothing but further attempts at the step, or with the other
branches of the fan-out.  The visit ends the execution as failed exactly if time does not
run out and nothing makes up for the error.  Once it has ended the execution, no handler is
called any more. -/
theorem Run.critical_error
    {environment : Environment}
    {workflow : Workflow}
    {call : Call}
    {history : History}
    {record : ExecutionRecord}
    {earlier later : List (Invocation × Reply)}
    {invocation : Invocation}
    {reply : Reply}
    (run : Run environment workflow call history (.done (.ended record)))
    (parts : history.invocations = earlier ++ (invocation, reply) :: later)
    (critical : invocation.step.isCritical = true)
    (raised : reply.outcome.raised = true) :
    ∃ past execution acting last flow visited begun others after,
      history = past ++ acting ++ after ∧
      Run environment workflow call past (.done (.turn execution)) ∧
      execution.activity.Ends acting (last, flow) ∧
      execution.schedule.current? = some visited ∧
      acting.invocations = begun ++ (invocation, reply) :: others ∧
      later = others ++ History.invocations after ∧
      (∀ called ∈ others, called.1.step = invocation.step ∨
        (visited.type = .parallel ∧
          called.1.step ∈ execution.schedule.branches visited)) ∧
      (flow.IsFailed ↔ ¬ flow.IsTimedOut ∧ execution.Unforgiven visited others) ∧
      ∀ ending, flow = .finish ending →
        History.invocations after = [] ∧ record.status = ending.status := by
  obtain ⟨past, execution, acting, last, flow, begun, others, after, split, before, acted, calls,
    rfl, ended⟩ := run.split_at_call parts
  obtain ⟨visited, current, confined, fails⟩ :=
    (acted_of_ends acted).consequence calls critical raised
  refine ⟨past, execution, acting, last, flow, visited, begun, others, after, split, before,
    acted, current, calls, rfl, confined, fails, fun ending finished => ?_⟩
  obtain ⟨nothing, final, same, status⟩ := ended ending finished
  cases same
  exact ⟨nothing, status⟩

/-- A workflow whose critical step is skipped when it fails. -/
def skipping : Workflow where
  id := "skipping"
  steps :=
    [{ id := "pay", type := .custom "pay", failure := { action := some .skip }
       isCritical := true },
     { id := "after", type := .custom "after", order := 1 }]

/-- The error of its first attempt ends the execution all the same. -/
theorem critical_error_of_skipping :
    ∃ history record invocation reply,
      played { handled := [(.custom "pay", true), (.custom "after", true)] } skipping
        { executionId := "run" } 3 [⟨.zero, .error (.executionFailed "down")⟩] =
        (history, .ended record) ∧
      history.invocations = [(invocation, reply)] ∧
      invocation.step.isCritical = true ∧ reply.outcome.raised = true ∧
      record.status = .failed ∧
      ∃ (past acting after : History) (execution : Execution) (flow : Flow) (visited : Step),
        history = past ++ acting ++ after ∧
        execution.schedule.current? = some visited ∧
        (flow.IsFailed ↔ ¬ flow.IsTimedOut ∧ execution.Unforgiven visited []) := by
  have run := run_played { handled := [(.custom "pay", true), (.custom "after", true)] } skipping
    { executionId := "run" } 3 [⟨.zero, .error (.executionFailed "down")⟩]
  obtain ⟨record, ended, failed⟩ : ∃ record,
      (played { handled := [(.custom "pay", true), (.custom "after", true)] } skipping
        { executionId := "run" } 3 [⟨.zero, .error (.executionFailed "down")⟩]).2 =
        .ended record ∧ record.status = .failed := ⟨_, rfl, rfl⟩
  rw [ended] at run
  obtain ⟨invocation, reply, calls, critical, raised⟩ : ∃ invocation reply,
      (played { handled := [(.custom "pay", true), (.custom "after", true)] } skipping
        { executionId := "run" } 3 [⟨.zero, .error (.executionFailed "down")⟩]).1.invocations =
        [] ++ (invocation, reply) :: [] ∧
      invocation.step.isCritical = true ∧ reply.outcome.raised = true := ⟨_, _, rfl, rfl, rfl⟩
  obtain ⟨past, execution, acting, _, flow, visited, _, others, after, split, _, _, current, _,
    none, _, fails, _⟩ := run.critical_error calls critical raised
  obtain ⟨rfl, -⟩ := List.append_eq_nil_iff.mp none.symm
  exact ⟨_, record, invocation, reply, Prod.ext rfl ended, calls, critical, raised, failed,
    past, acting, after, execution, flow, visited, split, current, fails⟩

/-- A workflow whose critical step is tried again when it fails. -/
def insisting : Workflow where
  id := "insisting"
  steps :=
    [{ id := "pay", type := .custom "pay", isCritical := true
       failure := { action := some .retry, maxRetries := some 2, retryDelayMs := some 0 } },
     { id := "after", type := .custom "after", order := 1 }]

/-- After a first attempt that fails without an error, the error of a retry does
not keep the next retry from making up for it. -/
theorem critical_error_made_up_for :
    insisting.isValid = true ∧
    ∃ history record earlier invocation reply later,
      Run { handled := [(.custom "pay", true), (.custom "after", true)] } insisting
        { executionId := "run" } history (.done (.ended record)) ∧
      history.invocations = earlier ++ (invocation, reply) :: later ∧
      invocation.step.isCritical = true ∧ reply.outcome.raised = true ∧
      later.map (fun called => called.1.step.id) = ["pay", "after"] ∧
      record.status = .completed := by
  have run := run_played { handled := [(.custom "pay", true), (.custom "after", true)] } insisting
    { executionId := "run" } 3
    [⟨.zero, .ok (.fail "soft")⟩, ⟨.zero, .error (.executionFailed "down")⟩]
  obtain ⟨record, ended, completed⟩ : ∃ record,
      (played { handled := [(.custom "pay", true), (.custom "after", true)] } insisting
        { executionId := "run" } 3
        [⟨.zero, .ok (.fail "soft")⟩, ⟨.zero, .error (.executionFailed "down")⟩]).2 =
        .ended record ∧ record.status = .completed := ⟨_, rfl, rfl⟩
  rw [ended] at run
  exact ⟨by rfl, _, record, [_], _, _, [_, _], run, rfl, rfl, rfl, rfl, completed⟩

end Execution
end WorkflowEngine
