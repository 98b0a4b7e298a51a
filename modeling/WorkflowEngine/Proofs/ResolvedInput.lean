import WorkflowEngine.Proofs.Reaction
import WorkflowEngine.Proofs.Run

/-!
# The input of handlers

Handlers are called with the input that the context gives for their step, with
one exception.  A step whose input cannot be resolved has failed, and where its
failure is to be tried again, its handler is called with an empty input.
-/

namespace WorkflowEngine
namespace Execution

/-- An execution may call the handler for a step whose input cannot be
resolved. -/
structure CallsUnresolved (execution : Execution) (step : Step) : Prop where
  met : execution.conditionsOf step = .ok true
  unresolved : ∃ missing, step.resolveInput execution.context = .error missing
  repeated : step.effectiveAction execution.workflow.policy.onFailure = .retry
  allowed : 0 < (RetryPolicy.ofStep step execution.environment.settings).maxRetries
  dispatched : Dispatch.ofStep execution.environment execution.context step [] =
    .call ⟨step, [], execution.context⟩
  patient : ∃ left : Span, left.nanos ≠ 0 ∧ left.nanos ≤ execution.context.timeout.nanos ∧
    (RetryPolicy.ofStep step execution.environment.settings).delay.ticks ≤ left.ticks

/-- Only the context, the workflow and the environment matter. -/
theorem CallsUnresolved.of_same
    {execution other : Execution}
    {step : Step}
    (calls : execution.CallsUnresolved step)
    (context : other.context = execution.context)
    (workflow : other.workflow = execution.workflow)
    (environment : other.environment = execution.environment) :
    other.CallsUnresolved step := by
  obtain ⟨met, unresolved, repeated, allowed, dispatched, patient⟩ := calls
  unfold conditionsOf at met
  rw [← context] at met unresolved dispatched patient
  rw [← workflow] at repeated
  rw [← environment] at allowed dispatched patient
  exact ⟨met, unresolved, repeated, allowed, dispatched, patient⟩

/-! ## Every other call has a resolved input -/

section

variable
  {step : Step}
  {input : Object}
  {before after : Execution}
  {history : History}
  {result : Execution × Flow}

/-- What is left of the time is no more than there was. -/
theorem remaining?_bounds
    {clock left : Span}
    (timely : before.remaining? clock = some left) :
    left.nanos ≠ 0 ∧ left.nanos ≤ before.context.timeout.nanos := by
  unfold remaining? at timely
  dsimp only at timely
  split at timely
  next => cases timely
  next some =>
    cases timely
    exact ⟨some, Nat.sub_le _ _⟩

/-- The calls of retries are those within the time that was left. -/
theorem Repeated.exists_again
    {first : Outcome}
    (repeated : Repeated step input first before history result)
    {called : Invocation × Reply}
    (member : called ∈ history.invocations) :
    ∃ clock calls writes retried after,
      TriedAgain step input first before clock calls writes retried after ∧
        called ∈ calls.invocations := by
  cases repeated with
  | late => simp [Exchange.invocation?] at member
  | cut again =>
    rw [again.invocations_eq] at member
    exact ⟨_, _, _, _, _, again, member⟩
  | succeeded again =>
    rw [again.invocations_eq] at member
    exact ⟨_, _, _, _, _, again, member⟩
  | failed again =>
    rw [again.invocations_eq] at member
    exact ⟨_, _, _, _, _, again, member⟩

/-- Retries call the handler with the input of the first attempt. -/
theorem Rejected.call_eq
    {outcome : Outcome}
    {condition : Option ConditionError}
    (rejected : Rejected step input outcome condition before history result)
    {called : Invocation × Reply}
    (member : called ∈ history.invocations) :
    condition = none ∧ reactionTo step before outcome = .retry ∧
      called.1 = ⟨step, input, before.context⟩ := by
  cases rejected with
  | repeated reaction met repeated =>
    obtain ⟨_, _, _, _, _, again, member⟩ := repeated.exists_again member
    exact ⟨met, reaction, Dispatch.call_eq (again.retries.dispatched member)⟩
  | _ => simp at member

/-- Retries that call the handler of a step were allowed to. -/
theorem Rejected.callsUnresolved
    {missing : MissingInput}
    (rejected : Rejected step [] (.failed missing.message false) none before history result)
    {called : Invocation × Reply}
    (member : called ∈ history.invocations)
    (met : before.conditionsOf step = .ok true)
    (unresolved : step.resolveInput before.context = .error missing) :
    before.CallsUnresolved step := by
  cases rejected with
  | repeated reaction _ repeated =>
    obtain ⟨_, _, _, _, _, again, member⟩ := repeated.exists_again member
    obtain ⟨left, timely, ends⟩ := again.within
    obtain ⟨allowed, patient⟩ := allowed_of_call ends member
    obtain ⟨some, bounded⟩ := remaining?_bounds timely
    have dispatched := again.retries.dispatched member
    refine ⟨met, ⟨missing, unresolved⟩, (Step.reaction_eq_retry_iff.mp reaction).2, allowed, ?_,
      left, some, bounded, patient⟩
    rw [dispatched, Dispatch.call_eq dispatched]
  | _ => simp at member

/-- A first attempt calls handlers with the input of the step, or of the branches
of a fan-out. -/
theorem Tried.resolved
    {outcome : Option Outcome}
    (tried : Tried step input before history after outcome)
    (resolved : step.resolveInput before.context = .ok input)
    {called : Invocation × Reply}
    (member : called ∈ history.invocations) :
    called.1.step.resolveInput called.1.context = .ok called.1.input := by
  obtain ⟨invocation, reply⟩ := called
  cases tried with
  | attempted _ attempted =>
    obtain rfl := Dispatch.call_eq (attempted.dispatched member)
    exact resolved
  | @overrun calls _ _ _ fanned =>
    have member : (invocation, reply) ∈ calls.invocations := by
      simpa [Exchange.invocation?] using member
    obtain ⟨listed, _, _, _, rfl, resolved, _⟩ := fanned.branch_of_call member
    exact resolved
  | @fanned calls _ _ _ _ _ fanned settled =>
    have member : (invocation, reply) ∈ calls.invocations := by
      simpa [Exchange.invocation?, settled.invocations_eq_nil] using member
    obtain ⟨listed, _, _, _, rfl, resolved, _⟩ := fanned.branch_of_call member
    exact resolved

/-- A first attempt that may be followed by retries changes nothing. -/
theorem Tried.after_eq
    {outcome : Option Outcome}
    (tried : Tried step input before history after outcome)
    (single : step.type ≠ .parallel) :
    after = before := by
  cases tried with
  | attempted => rfl
  | overrun parallel => exact (single parallel).elim
  | fanned parallel => exact (single parallel).elim

theorem Performed.resolved
    (performed : Performed step input before history result)
    (resolved : step.resolveInput before.context = .ok input)
    {called : Invocation × Reply}
    (member : called ∈ history.invocations) :
    called.1.step.resolveInput called.1.context = .ok called.1.input := by
  cases performed with
  | late => simp [Exchange.invocation?] at member
  | interrupted tried written =>
    rw [written.invocations_tried] at member
    exact tried.resolved resolved member
  | succeeded tried written =>
    rw [written.invocations_tried] at member
    exact tried.resolved resolved member
  | failed tried written _ rejected =>
    rw [History.invocations_append, written.invocations_tried, List.mem_append] at member
    rcases member with member | member
    · exact tried.resolved resolved member
    · obtain ⟨-, reaction, same⟩ := rejected.call_eq member
      have repeated := (Step.reaction_eq_retry_iff.mp reaction).2
      have single := Step.type_ne_parallel_of_effectiveAction repeated
      rw [same, written.context_eq, tried.after_eq single]
      exact resolved

theorem Visited.resolved
    (visited : Visited step before history result)
    (sound : ¬ before.CallsUnresolved step)
    {called : Invocation × Reply}
    (member : called ∈ history.invocations) :
    called.1.step.resolveInput called.1.context = .ok called.1.input := by
  cases visited with
  | skipped => simp at member
  | unevaluated _ written rejected =>
    rw [written.invocations_untried] at member
    obtain ⟨impossible, -⟩ := rejected.call_eq member
    cases impossible
  | unresolved met unresolved written rejected =>
    rw [written.invocations_untried] at member
    obtain ⟨monitor, rfl⟩ := written.after_eq
    exact (sound ((rejected.callsUnresolved member met unresolved).of_same rfl rfl rfl)).elim
  | performed _ resolved performed => exact performed.resolved resolved member

theorem Acted.resolved
    (acted : Acted before history result)
    (sound : ∀ step, before.schedule.current? = some step → ¬ before.CallsUnresolved step)
    {called : Invocation × Reply}
    (member : called ∈ history.invocations) :
    called.1.step.resolveInput called.1.context = .ok called.1.input := by
  cases acted with
  | idle kept => simp [kept.invocations_eq_nil] at member
  | exhausted kept => simp [kept.invocations_eq_nil] at member
  | late kept => simp [kept.invocations_eq_nil] at member
  | visited opened current visited _ synced =>
    have still : ¬ CallsUnresolved _ _ := fun calls => sound _ current
      (calls.of_same opened.context.symm opened.workflow.symm opened.environment.symm)
    refine visited.resolved still ?_
    simpa [opened.invocations_eq_nil, synced.invocations_eq_nil] using member

end

/-! ## The exception -/

section

variable {execution : Execution} {step : Step}

theorem waitWithin_fits
    {bound : Nat}
    {span : Span}
    (fits : span.ticks ≤ bound) :
    ∃ left, (waitWithin (some bound) span).Ends [⟨.wait span.ticks, ()⟩] (some left) := by
  unfold waitWithin
  dsimp only
  rw [if_pos fits]
  exact ⟨_, .ask (.here _)⟩

/-- Any time up to the limit is left at some reading of the clock. -/
theorem exists_remaining?_eq
    {left : Span}
    (present : left.nanos ≠ 0)
    (bounded : left.nanos ≤ execution.context.timeout.nanos) :
    ∃ clock, execution.remaining? clock = some left := by
  let limit := execution.context.timeout.nanos
  refine ⟨⟨execution.startedAt.nanos + (limit - left.nanos)⟩, ?_⟩
  have rest : limit - (execution.startedAt.nanos + (limit - left.nanos) -
      execution.startedAt.nanos) = left.nanos := by omega
  unfold remaining? elapsed
  simp only [limit] at rest
  simp only [limit, rest, if_neg present]

/-- The retries of a step that failed for want of input call its handler. -/
theorem CallsUnresolved.retry
    (calls : execution.CallsUnresolved step)
    (message : String) :
    (execution.retry step [] (.failed message false)).MayCall ⟨step, [], execution.context⟩ := by
  obtain ⟨left, present, bounded, patient⟩ := calls.patient
  obtain ⟨clock, timely⟩ := execution.exists_remaining?_eq present bounded
  refine Program.MayCall.of_request clock ?_
  dsimp only
  rw [timely]
  refine .bind ?_ _
  obtain ⟨remaining, allowed⟩ := Nat.exists_eq_succ_of_ne_zero (Nat.ne_of_gt calls.allowed)
  unfold retryWithin
  rw [allowed]
  obtain ⟨later, waited⟩ := waitWithin_fits patient
  refine .of_ends waited (.of_request (.ofMillis 0) (.bind ?_ _))
  unfold attemptWithin
  rw [calls.dispatched]
  exact Program.mayCall_invoke _

theorem CallsUnresolved.fail
    (calls : execution.CallsUnresolved step)
    (message : String) :
    (execution.fail step [] (.failed message false) none).MayCall
      ⟨step, [], execution.context⟩ := by
  have reaction : step.reaction (.failed message false) execution.workflow.policy.onFailure
      execution.schedule = .retry :=
    Step.reaction_eq_retry_iff.mpr ⟨Bool.and_false _, calls.repeated⟩
  unfold Execution.fail
  dsimp only
  rw [reaction]
  exact calls.retry message

theorem CallsUnresolved.runStep
    (calls : execution.CallsUnresolved step) :
    (execution.runStep step).MayCall ⟨step, [], execution.context⟩ := by
  obtain ⟨missing, unresolved⟩ := calls.unresolved
  have met := calls.met
  unfold conditionsOf at met
  unfold Execution.runStep
  rw [met]
  dsimp only
  rw [unresolved]
  let outcome := Outcome.failed missing.message false
  have ends := (execution.writeNow step outcome).ends_play []
  obtain ⟨startedAt, _, _, written⟩ := Program.Ends.of_request ends
  refine .of_ends ends ?_
  obtain ⟨monitor, same⟩ := (written_of_ends written).after_eq
  rw [same]
  let middle := { execution with monitor, attempts := execution.attempts + 1 }
  have again : middle.CallsUnresolved step := calls.of_same rfl rfl rfl
  exact again.fail missing.message

theorem CallsUnresolved.visit
    (calls : execution.CallsUnresolved step)
    (current : execution.schedule.current? = some step) :
    execution.step.MayCall ⟨step, [], execution.context⟩ := by
  unfold Execution.step
  rw [current]
  refine Program.MayCall.of_request execution.startedAt ?_
  have timely : execution.isTimedOut execution.startedAt = false := by
    simp [isTimedOut, elapsed]
  dsimp only
  rw [timely, if_neg Bool.false_ne_true]
  refine .bind ?_ _
  exact CallsUnresolved.runStep (calls.of_same rfl rfl rfl)

/-- A turn of an execution that may call a handler without its input does so for
some answers. -/
theorem CallsUnresolved.activity
    (calls : execution.CallsUnresolved step)
    (current : execution.schedule.current? = some step) :
    execution.activity.MayCall ⟨step, [], execution.context⟩ := by
  unfold Execution.activity
  split
  · refine Program.MayCall.of_request (.news .run execution.listener) ?_
    let resumed := { execution with isPaused := false }
    have ends := (resumed.change .running .resumed).ends_play []
    have kept := steady_of_ends_change ends
    have again := calls.of_same kept.context kept.workflow kept.environment
    refine .of_ends ends ?_
    rw [← show _ = execution.context from kept.context]
    refine again.visit ?_
    rw [kept.schedule]
    exact current
  · refine Program.MayCall.of_request (.run, execution.listener) ?_
    exact CallsUnresolved.visit (calls.of_same rfl rfl rfl) current

end

/-! ## Runs -/

/-- The handlers of all runs are called with resolved inputs exactly if no run
comes to an execution that may call a handler without.  There a step whose
required input is missing is tried again. -/
theorem Run.resolved_iff
    (environment : Environment)
    (workflow : Workflow)
    (call : Call) :
    (∀ history now, Run environment workflow call history now →
      ∀ called ∈ history.invocations,
        called.1.step.resolveInput called.1.context = .ok called.1.input) ↔
    ∀ past execution, Run environment workflow call past (.done (.turn execution)) →
      ∀ step, execution.schedule.current? = some step → ¬ execution.CallsUnresolved step := by
  constructor
  · intro resolved past execution run step current calls
    -- Some answers carry the run on to the call, whose input is empty.
    obtain ⟨acting, result, reply, ends, member⟩ := (calls.activity current).exists_ends
    obtain ⟨missing, unresolved⟩ := calls.unresolved
    have turned := Run.turn run (Program.Reaches.bind ends _)
    have known := resolved _ _ turned _ (by
      rw [History.invocations_append]
      exact List.mem_append_right _ member)
    rw [unresolved] at known
    cases known
  · intro sound history now run called member
    obtain ⟨rest, next, complete⟩ := run.exists_ends
    have member : called ∈ History.invocations (history ++ rest) := by simp [member]
    obtain ⟨earlier, later, parts⟩ := List.append_of_mem member
    obtain ⟨past, execution, acting, _, _, _, _, _, -, begun, acted, calls, -⟩ :=
      complete.split_at_call parts
    refine (acted_of_ends acted).resolved (sound past execution begun) ?_
    simp [calls]

/-- A workflow whose step requires an input and is tried again once. -/
def demanding : Workflow where
  id := "demanding"
  steps :=
    [{ id := "pay", type := .custom "pay"
       inputs := {
         entries := [("order", { source := .userInput, required := true })]
         sorted := by decide }
       failure := { action := some .retry, maxRetries := some 1, retryDelayMs := some 0 } }]

/-- Without that input the handler of the step is called all the same, and the
execution completes. -/
theorem call_without_required_input :
    demanding.isValid = true ∧
    ∃ history record called,
      Run { handled := [(.custom "pay", true)] } demanding { executionId := "run" } history
        (.done (.ended record)) ∧
      called ∈ history.invocations ∧
      called.1.step.resolveInput called.1.context = .error ⟨"order", "order"⟩ ∧
      called.1.input = [] ∧
      record.status = .completed := by
  have run := run_played { handled := [(.custom "pay", true)] } demanding { executionId := "run" }
    2 []
  obtain ⟨record, ended, completed⟩ : ∃ record,
      (played { handled := [(.custom "pay", true)] } demanding { executionId := "run" } 2 []).2 =
        .ended record ∧ record.status = .completed := ⟨_, rfl, rfl⟩
  rw [ended] at run
  exact ⟨by rfl, _, record, _, run, List.mem_of_getElem? (i := 0) rfl, rfl, rfl, completed⟩

end Execution
end WorkflowEngine
