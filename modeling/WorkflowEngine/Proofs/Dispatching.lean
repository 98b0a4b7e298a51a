import WorkflowEngine.Proofs.ResolvedInput
import WorkflowEngine.Proofs.HandlerWork

/-!
# What a visit dispatches

A visit of a step dispatches that step, or the branches of it when it is parallel.  The
conditions of both are looked at before, over the same context.  That goes for the
handlers that are called, whatever becomes of them, and for the work that needs no
handler or has finished.
-/

namespace WorkflowEngine

/-- Every handler that a fan-out calls is called in one of its branches. -/
theorem FannedOut.exists_branched_of_call
    {environment : Environment}
    {context : Context}
    {steps : List Step}
    {history : History}
    {branches : List Branch}
    {called : Invocation × Reply}
    (fanned : FannedOut environment context steps history branches)
    (member : called ∈ history.invocations) :
    ∃ listed ∈ steps, ∃ part branch, Branched environment context listed part branch ∧
      called ∈ part.invocations := by
  induction fanned with
  | nil => simp at member
  | cons branched _ inductionHypothesis =>
    rw [History.invocations_append, List.mem_append] at member
    rcases member with member | member
    · exact ⟨_, List.mem_cons_self, _, _, branched, member⟩
    · obtain ⟨listed, found, rest⟩ := inductionHypothesis member
      exact ⟨listed, List.mem_cons_of_mem _ found, rest⟩

/-- Every retry that comes to an outcome is an attempt at the step. -/
theorem Retries.attempted_of_mem
    {environment : Environment}
    {context : Context}
    {step : Step}
    {input : Object}
    {policy : RetryPolicy}
    {remaining number : Nat}
    {previous : Outcome}
    {history : History}
    {retried : Retried}
    (retries : Retries environment context step input policy remaining number previous
      history retried) :
    ∀ attempt ∈ retried.attempts, ∃ part,
      Attempted environment context step input part (some attempt.outcome) := by
  induction retries with
  | exhausted => simp
  | late => simp
  | cut => simp
  | succeeded attempted =>
    rintro attempt (_ | ⟨_, ⟨⟩⟩)
    exact ⟨_, attempted⟩
  | failed attempted _ _ inductionHypothesis =>
    rintro attempt (_ | ⟨_, member⟩)
    · exact ⟨_, attempted⟩
    · exact inductionHypothesis attempt member

namespace Execution

/-- A visit of a step dispatches a step. -/
inductive Dispatches (execution : Execution) (step : Step) : Invocation → Prop
  /-- The step itself unless it is parallel, also when it is tried again for want of an
  input. -/
  | itself
      {input : Object}
      (single : step.type ≠ .parallel)
      (met : execution.conditionsOf step = .ok true)
      (resolved : step.resolveInput execution.context = .ok input ∨ input = []) :
      Dispatches execution step ⟨step, input, execution.context⟩
  | branch
      {listed : Step}
      {input : Object}
      (parallel : step.type = .parallel)
      (met : execution.conditionsOf step = .ok true)
      (member : listed ∈ execution.schedule.branches step)
      (active : listed.isActive = true)
      (branchMet : execution.conditionsOf listed = .ok true)
      (resolved : listed.resolveInput execution.context = .ok input) :
      Dispatches execution step ⟨listed, input, execution.context⟩

namespace Dispatches

variable {execution other : Execution} {step : Step} {invocation : Invocation}

/-- Only the context and the steps matter. -/
theorem of_same
    (dispatches : execution.Dispatches step invocation)
    (context : other.context = execution.context)
    (schedule : other.schedule = execution.schedule) :
    other.Dispatches step invocation := by
  cases dispatches with
  | itself single met resolved =>
    unfold conditionsOf at met
    rw [← context] at met resolved ⊢
    exact .itself single met resolved
  | branch parallel met member active branchMet resolved =>
    unfold conditionsOf at met branchMet
    rw [← context] at met branchMet resolved ⊢
    rw [← schedule] at member
    exact .branch parallel met member active branchMet resolved

theorem met (dispatches : execution.Dispatches step invocation) :
    execution.conditionsOf step = .ok true := by
  cases dispatches <;> assumption

/-- The conditions of whatever is dispatched hold. -/
theorem dispatched_met (dispatches : execution.Dispatches step invocation) :
    execution.conditionsOf invocation.step = .ok true := by
  cases dispatches <;> assumption

theorem context_eq (dispatches : execution.Dispatches step invocation) :
    invocation.context = execution.context := by
  cases dispatches <;> rfl

theorem isActive
    (dispatches : execution.Dispatches step invocation)
    (active : step.isActive = true) :
    invocation.step.isActive = true := by
  cases dispatches <;> assumption

theorem resolved (dispatches : execution.Dispatches step invocation) :
    invocation.step.resolveInput invocation.context = .ok invocation.input ∨
      invocation.input = [] := by
  cases dispatches with
  | itself _ _ resolved => exact resolved
  | branch _ _ _ _ _ resolved => exact .inl resolved

end Dispatches

/-! ## Calls -/

/-- A visit dispatches a step to its handler. -/
structure Calls (execution : Execution) (step : Step) (invocation : Invocation) : Prop where
  dispatches : execution.Dispatches step invocation
  called : Dispatch.ofStep execution.environment invocation.context invocation.step
    invocation.input = .call invocation

theorem Calls.of_same
    {execution other : Execution}
    {step : Step}
    {invocation : Invocation}
    (calls : execution.Calls step invocation)
    (environment : other.environment = execution.environment)
    (context : other.context = execution.context)
    (schedule : other.schedule = execution.schedule) :
    other.Calls step invocation where
  dispatches := calls.dispatches.of_same context schedule
  called := by
    rw [environment]
    exact calls.called

section

variable
  {step : Step}
  {input : Object}
  {before after : Execution}
  {history : History}
  {result : Execution × Flow}
  {called : Invocation × Reply}

/-- The branches that call handlers are dispatched. -/
theorem calls_of_fannedOut
    {branches : List Branch}
    (fanned : FannedOut before.environment before.context (before.schedule.branches step)
      history branches)
    (parallel : step.type = .parallel)
    (met : before.conditionsOf step = .ok true)
    (member : called ∈ history.invocations) :
    before.Calls step called.1 := by
  obtain ⟨listed, found, _, _, branched, member⟩ :=
    fanned.exists_branched_of_call member
  cases branched with
  | called active branchMet resolved dispatched =>
    obtain rfl : called = _ := by simpa [Exchange.invocation?] using member
    exact ⟨.branch parallel met found active branchMet resolved, dispatched⟩
  | _ => simp [Exchange.invocation?] at member

theorem Tried.calls_dispatched
    {outcome : Option Outcome}
    (tried : Tried step input before history after outcome)
    (met : before.conditionsOf step = .ok true)
    (resolved : step.resolveInput before.context = .ok input)
    (member : called ∈ history.invocations) :
    before.Calls step called.1 := by
  cases tried with
  | attempted single attempted =>
    have dispatched := attempted.dispatched member
    have same := Dispatch.call_eq dispatched
    rw [same] at dispatched ⊢
    exact ⟨.itself single met (.inl resolved), dispatched⟩
  | @overrun calls _ _ parallel fanned =>
    have member : called ∈ calls.invocations := by simpa [Exchange.invocation?] using member
    exact calls_of_fannedOut fanned parallel met member
  | @fanned calls _ _ _ _ parallel fanned settled =>
    have member : called ∈ calls.invocations := by
      simpa [Exchange.invocation?, settled.invocations_eq_nil] using member
    exact calls_of_fannedOut fanned parallel met member

/-- Retries dispatch the step again. -/
theorem Rejected.calls_dispatched
    {outcome : Outcome}
    {condition : Option ConditionError}
    (rejected : Rejected step input outcome condition before history result)
    (met : before.conditionsOf step = .ok true)
    (resolved : step.resolveInput before.context = .ok input ∨ input = [])
    (member : called ∈ history.invocations) :
    before.Calls step called.1 := by
  cases rejected with
  | repeated reaction _ repeated =>
    obtain ⟨_, _, _, _, _, again, member⟩ := repeated.exists_again member
    have single : step.type ≠ .parallel :=
      Step.type_ne_parallel_of_effectiveAction (Step.reaction_eq_retry_iff.mp reaction).2
    have dispatched := again.retries.dispatched member
    have same := Dispatch.call_eq dispatched
    rw [same] at dispatched ⊢
    exact ⟨.itself single met resolved, dispatched⟩
  | _ => simp at member

theorem Performed.calls_dispatched
    (performed : Performed step input before history result)
    (met : before.conditionsOf step = .ok true)
    (resolved : step.resolveInput before.context = .ok input)
    (member : called ∈ history.invocations) :
    before.Calls step called.1 := by
  cases performed with
  | late => simp [Exchange.invocation?] at member
  | interrupted tried written =>
    rw [written.invocations_tried] at member
    exact tried.calls_dispatched met resolved member
  | succeeded tried written =>
    rw [written.invocations_tried] at member
    exact tried.calls_dispatched met resolved member
  | failed tried written _ rejected =>
    rw [History.invocations_append, written.invocations_tried, List.mem_append] at member
    rcases member with member | member
    · exact tried.calls_dispatched met resolved member
    · -- Only a step that is not parallel is tried again, and its first attempt changes nothing.
      obtain ⟨-, reaction, -⟩ := rejected.call_eq member
      have repeated := (Step.reaction_eq_retry_iff.mp reaction).2
      obtain rfl := tried.after_eq (Step.type_ne_parallel_of_effectiveAction repeated)
      obtain ⟨monitor, rfl⟩ := written.after_eq
      exact (rejected.calls_dispatched met (.inl resolved) member).of_same rfl rfl rfl

/-- Where conditions do not hold or cannot be evaluated, no handler is called, whatever
the step says about its failure. -/
theorem Visited.calls_dispatched
    (visited : Visited step before history result)
    (member : called ∈ history.invocations) :
    before.Calls step called.1 := by
  cases visited with
  | skipped => simp at member
  | unevaluated _ written rejected =>
    rw [written.invocations_untried] at member
    obtain ⟨impossible, -⟩ := rejected.call_eq member
    cases impossible
  | unresolved met _ written rejected =>
    rw [written.invocations_untried] at member
    obtain ⟨monitor, rfl⟩ := written.after_eq
    exact (rejected.calls_dispatched met (.inr rfl) member).of_same rfl rfl rfl
  | performed met resolved performed => exact performed.calls_dispatched met resolved member

/-- A turn calls handlers for the step under the cursor alone. -/
theorem Acted.calls_dispatched
    (acted : Acted before history result)
    (member : called ∈ history.invocations) :
    ∃ step, before.schedule.current? = some step ∧ before.Calls step called.1 := by
  cases acted with
  | idle kept => simp [kept.invocations_eq_nil] at member
  | exhausted kept => simp [kept.invocations_eq_nil] at member
  | late kept => simp [kept.invocations_eq_nil] at member
  | @visited step _ visit _ _ _ _ opened current visited _ synced =>
    have member : called ∈ visit.invocations := by
      simpa [opened.invocations_eq_nil, synced.invocations_eq_nil] using member
    exact ⟨step, current, (visited.calls_dispatched member).of_same opened.environment.symm
      opened.context.symm opened.schedule.symm⟩

end

/-! ## Works -/

/-- A visit dispatches a step, and comes to an outcome of it. -/
structure Does (execution : Execution) (step : Step) (work : Work) : Prop where
  dispatches : execution.Dispatches step work.invocation
  attempted : ∃ part, Attempted execution.environment work.invocation.context
    work.invocation.step work.invocation.input part (some work.outcome)

theorem Does.of_same
    {execution other : Execution}
    {step : Step}
    {work : Work}
    (does : execution.Does step work)
    (environment : other.environment = execution.environment)
    (context : other.context = execution.context)
    (schedule : other.schedule = execution.schedule) :
    other.Does step work where
  dispatches := does.dispatches.of_same context schedule
  attempted := by
    rw [environment]
    exact does.attempted

section

variable
  {step : Step}
  {input : Object}
  {before after : Execution}
  {history : History}

/-- The work of a fan-out is that of branches that were dispatched. -/
theorem does_of_fannedOut
    {branches : List Branch}
    {millis : Nat}
    {work : Work}
    (fanned : FannedOut before.environment before.context (before.schedule.branches step)
      history branches)
    (parallel : step.type = .parallel)
    (met : before.conditionsOf step = .ok true)
    (member : work ∈ Branch.works before.context millis branches) :
    before.Does step work := by
  obtain ⟨branch, found, worked⟩ := List.mem_filterMap.mp member
  obtain ⟨listed, named, part, branched⟩ := fanned.exists_branched branch found
  have worked : branch.work? before.context = some work := by
    split at worked
    · exact worked
    · cases worked
  cases branched with
  | inactive => cases worked
  | unmet => cases worked
  | unevaluated _ broken => simp [Branch.work?, broken] at worked
  | unresolved _ branchMet unresolved => simp [Branch.work?, branchMet, unresolved] at worked
  | settled active branchMet resolved dispatched =>
    obtain rfl : _ = work := by simpa [Branch.work?, branchMet, resolved] using worked
    exact ⟨.branch parallel met named active branchMet resolved, _, .settled dispatched⟩
  | called active branchMet resolved dispatched =>
    obtain rfl : _ = work := by simpa [Branch.work?, branchMet, resolved] using worked
    exact ⟨.branch parallel met named active branchMet resolved, _, .answered dispatched⟩

end

/-! ## Turns that call -/

section

variable
  {environment : Environment}
  {workflow : Workflow}
  {call : Call}
  {execution : Execution}
  {history : History}
  {called : Invocation × Reply}

/-- A turn that calls a handler does so as it would by its end. -/
theorem calls_of_turn
    {now : Program Next}
    (turned : execution.turn.Reaches history now)
    (member : called ∈ history.invocations) :
    ∃ step, execution.schedule.current? = some step ∧ execution.Calls step called.1 := by
  obtain ⟨rest, next, ends⟩ := turned.exists_ends
  rcases ends_turn ends with
    ⟨last, acted, -⟩ | ⟨last, ending, acting, closing, record, same, acted, closed, -⟩
  · refine (acted_of_ends acted).calls_dispatched ?_
    rw [History.invocations_append]
    exact List.mem_append_left _ member
  · have silent := (closed_of_ends closed).invocations_eq_nil
    have member : called ∈ History.invocations (acting ++ closing) := by
      rw [← same, History.invocations_append]
      exact List.mem_append_left _ member
    rw [History.invocations_append, silent, List.append_nil] at member
    exact (acted_of_ends acted).calls_dispatched member

/-- Every call of a run falls into a turn, which need not be over. -/
theorem Run.exists_turn_of_call
    {now : Program Next}
    (run : Run environment workflow call history now)
    (member : called ∈ history.invocations) :
    ∃ past acting rest execution reached,
      history = past ++ acting ++ rest ∧
      Run environment workflow call past (.done (.turn execution)) ∧
      execution.turn.Reaches acting reached ∧ called ∈ acting.invocations := by
  induction run with
  | start begun =>
    obtain ⟨rest, next, ends⟩ := begun.exists_ends
    have silent := (started_of_ends ends).invocations_eq_nil
    rw [History.invocations_append, List.append_eq_nil_iff] at silent
    simp [silent.1] at member
  | @turn past acting execution now run turned inductionHypothesis =>
    rw [History.invocations_append, List.mem_append] at member
    rcases member with member | member
    · obtain ⟨before, during, rest, execution, reached, rfl, found⟩ := inductionHypothesis member
      exact ⟨before, during, rest ++ acting, execution, reached, by simp, found⟩
    · exact ⟨past, acting, [], execution, now, (List.append_nil _).symm, run, turned, member⟩

end

end Execution
end WorkflowEngine
