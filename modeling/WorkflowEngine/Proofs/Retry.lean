import WorkflowEngine.Execution.Retry
import WorkflowEngine.Proofs.Dispatch

/-!
# Histories of retries

How the retries of a failed step go.  All of them dispatch the step with the
input and the context of its first attempt.
-/

namespace WorkflowEngine

section

variable
  (environment : Environment)
  (context : Context)
  (step : Step)
  (input : Object)

/-- How the retries of a failed step go.  The index counts the retries that are
left; the next one has a number, and follows an outcome. -/
inductive Retries (policy : RetryPolicy) : Nat → Nat → Outcome → History → Retried → Prop
  /-- No retry is left. -/
  | exhausted
      {number : Nat}
      {previous : Outcome} :
      Retries policy 0 number previous [] { outcome := some (policy.exhausted previous) }
  /-- Time runs out before the next retry begins. -/
  | late
      {remaining number millis : Nat}
      {previous : Outcome}
      (short : millis < (policy.delayAfter previous.result).ticks) :
      Retries policy (remaining + 1) number previous [⟨.wait millis, ()⟩] {}
  /-- Time runs out during a retry. -/
  | cut
      {remaining number : Nat}
      {previous : Outcome}
      {startedAt : Timestamp}
      {history : History}
      (attempted : Attempted environment context step input history none) :
      Retries policy (remaining + 1) number previous
        (⟨.wait (policy.delayAfter previous.result).ticks, ()⟩ :: ⟨.now, startedAt⟩ :: history) {}
  /-- A retry succeeds. -/
  | succeeded
      {remaining number : Nat}
      {previous outcome : Outcome}
      {startedAt : Timestamp}
      {history : History}
      (attempted : Attempted environment context step input history (some outcome))
      (success : outcome.succeeded = true) :
      Retries policy (remaining + 1) number previous
        (⟨.wait (policy.delayAfter previous.result).ticks, ()⟩ :: ⟨.now, startedAt⟩ :: history)
        { attempts := [{ number, startedAt, outcome }], outcome := some outcome }
  /-- A retry fails, and others may follow. -/
  | failed
      {remaining number : Nat}
      {previous outcome : Outcome}
      {startedAt : Timestamp}
      {history rest : History}
      {retried : Retried}
      (attempted : Attempted environment context step input history (some outcome))
      (failure : outcome.succeeded = false)
      (followed : Retries policy remaining (number + 1) outcome rest retried) :
      Retries policy (remaining + 1) number previous
        (⟨.wait (policy.delayAfter previous.result).ticks, ()⟩ :: ⟨.now, startedAt⟩ ::
          history ++ rest)
        (retried.cons { number, startedAt, outcome })

variable {environment context step input}

theorem retryFrom_uses
    (policy : RetryPolicy)
    (remaining number : Nat)
    (previous : Outcome)
    (limit : Limit) :
    (retryFrom environment context step input policy remaining number previous limit).Uses
      Request.isDispatch := by
  induction remaining generalizing number previous limit with
  | zero => trivial
  | succ remaining inductionHypothesis =>
    refine (waitWithin_uses _ _).bind fun left => ?_
    cases left with
    | none => trivial
    | some left =>
      refine ⟨rfl, fun startedAt => (attemptWithin_uses left).bind fun result => ?_⟩
      cases result with
      | none => trivial
      | some result =>
        dsimp only
        split
        · trivial
        · exact (inductionHypothesis _ _ _).bind fun retried => trivial

theorem retries_of_ends
    {policy : RetryPolicy}
    {remaining number : Nat}
    {previous : Outcome}
    {limit : Limit}
    {history : History}
    {retried : Retried}
    (ends : (retryFrom environment context step input policy remaining number previous
      limit).Ends history retried) :
    Retries environment context step input policy remaining number previous history retried := by
  induction remaining generalizing number previous limit history retried with
  | zero =>
    obtain ⟨rfl, rfl⟩ := ends.of_done
    exact .exhausted
  | succ remaining inductionHypothesis =>
    obtain ⟨left, _, _, rfl, waited, began⟩ := Program.Ends.of_bind ends
    rcases ends_waitWithin waited with ⟨some, -, rfl⟩ | ⟨millis, short, rfl, rfl⟩
    · obtain ⟨left, rfl⟩ := Option.isSome_iff_exists.mp some
      obtain ⟨startedAt, _, rfl, tried⟩ := began.of_request
      obtain ⟨result, _, _, rfl, attempted, judged⟩ := tried.of_bind
      have attempted := attempted_of_ends attempted
      cases result with
      | none =>
        obtain ⟨rfl, rfl⟩ := judged.of_done
        rw [List.append_nil]
        exact .cut attempted
      | some result =>
        dsimp only at judged
        split at judged
        next success =>
          obtain ⟨rfl, rfl⟩ := judged.of_done
          rw [List.append_nil]
          exact .succeeded attempted success
        next failure =>
          obtain ⟨others, _, _, rfl, followed, last⟩ := judged.of_bind
          obtain ⟨rfl, rfl⟩ := last.of_done
          rw [List.append_nil]
          exact .failed attempted (by simpa using failure) (inductionHypothesis followed)
    · obtain ⟨rfl, rfl⟩ := began.of_done
      exact .late short

theorem Retries.attempts_eq_nil
    {policy : RetryPolicy}
    {remaining number : Nat}
    {previous : Outcome}
    {history : History}
    {retried : Retried}
    (retries : Retries environment context step input policy remaining number previous
      history retried) :
    history.attempts = [] := by
  induction retries with
  | exhausted => rfl
  | late => rfl
  | cut attempted => exact attempted.attempts_eq_nil
  | succeeded attempted => exact attempted.attempts_eq_nil
  | failed attempted _ _ inductionHypothesis =>
    simp only [List.cons_append, History.attempts_cons, Request.attempt?, Option.toList_none,
      List.nil_append, History.attempts_append]
    rw [attempted.attempts_eq_nil, inductionHypothesis]
    rfl

/-- All retries fail but the last one, and that one succeeds if the whole
does. -/
theorem Retries.attempts_cases
    {policy : RetryPolicy}
    {remaining number : Nat}
    {previous : Outcome}
    {history : History}
    {retried : Retried}
    (retries : Retries environment context step input policy remaining number previous
      history retried) :
    ((∀ attempt ∈ retried.attempts, attempt.outcome.succeeded = false) ∧
        ∀ outcome ∈ retried.outcome, outcome.succeeded = false) ∨
      ∃ failures last, retried.attempts = failures ++ [last] ∧
        (∀ attempt ∈ failures, attempt.outcome.succeeded = false) ∧
        last.outcome.succeeded = true ∧ retried.outcome = some last.outcome := by
  induction retries with
  | exhausted =>
    refine .inl ⟨by simp, ?_⟩
    rintro _ ⟨rfl⟩
    rfl
  | late => exact .inl ⟨by simp, by simp⟩
  | cut => exact .inl ⟨by simp, by simp⟩
  | succeeded _ success => exact .inr ⟨[], _, rfl, by simp, success, rfl⟩
  | @failed _ number _ outcome startedAt _ _ _ _ failure _ inductionHypothesis =>
    have failed : (Attempt.mk number startedAt outcome).outcome.succeeded = false := failure
    rcases inductionHypothesis with ⟨failures, fails⟩ | ⟨failures, last, attempts, fail, rest⟩
    · exact .inl ⟨List.forall_mem_cons.mpr ⟨failed, failures⟩, fails⟩
    · refine .inr ⟨_ :: failures, last, ?_, List.forall_mem_cons.mpr ⟨failed, fail⟩, rest⟩
      unfold Retried.cons
      rw [attempts]
      rfl

/-- Of the retries that were made, all but the last have failed. -/
theorem Retries.failed_of_mem_dropLast
    {policy : RetryPolicy}
    {remaining number : Nat}
    {previous : Outcome}
    {history : History}
    {retried : Retried}
    (retries : Retries environment context step input policy remaining number previous
      history retried) :
    ∀ attempt ∈ retried.attempts.dropLast, attempt.outcome.succeeded = false := by
  intro attempt member
  rcases retries.attempts_cases with ⟨failures, -⟩ | ⟨failures, last, attempts, fails, -⟩
  · exact failures attempt (List.dropLast_subset _ member)
  · rw [attempts, List.dropLast_concat] at member
    exact fails attempt member

/-- Retries are numbered one after another, and there are no more than were left. -/
theorem Retries.numbered
    {policy : RetryPolicy}
    {remaining number : Nat}
    {previous : Outcome}
    {history : History}
    {retried : Retried}
    (retries : Retries environment context step input policy remaining number previous
      history retried) :
    retried.attempts.map Attempt.number = List.range' number retried.attempts.length ∧
      retried.attempts.length ≤ remaining := by
  induction retries with
  | exhausted => exact ⟨rfl, Nat.le_refl 0⟩
  | late => exact ⟨rfl, Nat.zero_le _⟩
  | cut => exact ⟨rfl, Nat.zero_le _⟩
  | succeeded => exact ⟨rfl, Nat.succ_le_succ (Nat.zero_le _)⟩
  | failed _ _ _ inductionHypothesis =>
    obtain ⟨numbers, bounded⟩ := inductionHypothesis
    exact ⟨congrArg (List.cons _) numbers, Nat.succ_le_succ bounded⟩

/-- Retries call no handler but the one that the first attempt was dispatched
to, and with the same input. -/
theorem Retries.dispatched
    {policy : RetryPolicy}
    {remaining number : Nat}
    {previous : Outcome}
    {history : History}
    {retried : Retried}
    (retries : Retries environment context step input policy remaining number previous
      history retried)
    {called : Invocation × Reply}
    (member : called ∈ history.invocations) :
    Dispatch.ofStep environment context step input = .call called.1 := by
  induction retries with
  | exhausted => simp at member
  | late => simp [Exchange.invocation?] at member
  | cut attempted =>
    exact attempted.dispatched (by simpa [Exchange.invocation?] using member)
  | succeeded attempted =>
    exact attempted.dispatched (by simpa [Exchange.invocation?] using member)
  | failed attempted _ _ inductionHypothesis =>
    simp only [List.cons_append, History.invocations_cons, Exchange.invocation?,
      Option.toList_none, List.nil_append, History.invocations_append, List.mem_append] at member
    exact member.elim attempted.dispatched inductionHypothesis

/-- Retries that call a handler had a retry to make, and time to wait before
it. -/
theorem allowed_of_call
    {policy : RetryPolicy}
    {remaining number bound : Nat}
    {previous : Outcome}
    {history : History}
    {retried : Retried}
    (ends : (retryFrom environment context step input policy remaining number previous
      (some bound)).Ends history retried)
    {called : Invocation × Reply}
    (member : called ∈ history.invocations) :
    0 < remaining ∧ (policy.delayAfter previous.result).ticks ≤ bound := by
  cases remaining with
  | zero =>
    obtain ⟨rfl, -⟩ := ends.of_done
    simp at member
  | succ remaining =>
    refine ⟨Nat.succ_pos remaining, ?_⟩
    obtain ⟨left, _, _, rfl, waited, began⟩ := Program.Ends.of_bind ends
    rcases ends_waitWithin waited with ⟨-, fits, rfl⟩ | ⟨millis, -, rfl, rfl⟩
    · exact fits bound rfl
    · obtain ⟨rfl, -⟩ := began.of_done
      simp [Exchange.invocation?] at member

end

end WorkflowEngine
