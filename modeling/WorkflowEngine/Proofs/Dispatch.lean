import WorkflowEngine.Execution.Dispatch
import WorkflowEngine.Proofs.History

/-!
# Histories of attempts

How a single attempt at a step goes.  A handler is called first and then waited
for, so an attempt that runs out of time is one whose wait is too short.
-/

namespace WorkflowEngine

/-- A handler is only ever called with what its step was dispatched with. -/
theorem Dispatch.call_eq
    {environment : Environment}
    {context : Context}
    {step : Step}
    {input : Object}
    {invocation : Invocation}
    (dispatched : Dispatch.ofStep environment context step input = .call invocation) :
    invocation = ⟨step, input, context⟩ := by
  unfold Dispatch.ofStep at dispatched
  split at dispatched
  · cases dispatched
  · split at dispatched
    · cases dispatched
    · cases dispatched
      rfl

/-- Without a handler an attempt fails. -/
theorem Dispatch.ofStep_unhandled
    {environment : Environment}
    {step : Step}
    (unhandled : environment.handled.lookup step.type = none)
    (context : Context)
    (input : Object) :
    Dispatch.ofStep environment context step input = .settled (.unavailable step.type) := by
  simp [Dispatch.ofStep, unhandled]

/-! ## Waiting -/

theorem waitWithin_uses (limit : Limit) (span : Span) :
    (waitWithin limit span).Uses Request.isDispatch := by
  unfold waitWithin
  cases limit with
  | none => exact ⟨rfl, fun _ => trivial⟩
  | some left =>
    dsimp only
    split <;> exact ⟨rfl, fun _ => trivial⟩

/-- A wait takes its whole time off a limit, or else lasts until the limit is reached. -/
theorem waits_of_ends
    {limit : Limit}
    {span : Span}
    {history : History}
    {left : Option Limit}
    (ends : (waitWithin limit span).Ends history left) :
    ((∀ bound ∈ limit, span.ticks ≤ bound) ∧ left = some (limit.map (· - span.ticks)) ∧
        history = [⟨.wait span.ticks, ()⟩]) ∨
      ∃ bound ∈ limit, bound < span.ticks ∧ left = none ∧ history = [⟨.wait bound, ()⟩] := by
  unfold waitWithin at ends
  cases limit with
  | none =>
    obtain ⟨⟨⟩, _, rfl, waited⟩ := ends.of_request
    obtain ⟨rfl, rfl⟩ := waited.of_done
    exact .inl ⟨by simp, rfl, rfl⟩
  | some bound =>
    dsimp only at ends
    split at ends
    next fits =>
      obtain ⟨⟨⟩, _, rfl, waited⟩ := ends.of_request
      obtain ⟨rfl, rfl⟩ := waited.of_done
      exact .inl ⟨by simpa using fits, rfl, rfl⟩
    next short =>
      obtain ⟨⟨⟩, _, rfl, waited⟩ := ends.of_request
      obtain ⟨rfl, rfl⟩ := waited.of_done
      exact .inr ⟨bound, rfl, Nat.lt_of_not_le short, rfl, rfl⟩

/-- One waits for the whole time, or for less when the limit is reached. -/
theorem ends_waitWithin
    {limit : Limit}
    {span : Span}
    {history : History}
    {left : Option Limit}
    (ends : (waitWithin limit span).Ends history left) :
    (left.isSome = true ∧ (∀ bound ∈ limit, span.ticks ≤ bound) ∧
        history = [⟨.wait span.ticks, ()⟩]) ∨
      ∃ millis < span.ticks, left = none ∧ history = [⟨.wait millis, ()⟩] := by
  rcases waits_of_ends ends with ⟨fits, rfl, rfl⟩ | ⟨bound, -, short, rfl, rfl⟩
  · exact .inl ⟨rfl, fits, rfl⟩
  · exact .inr ⟨bound, short, rfl, rfl⟩

/-- Every wait comes to an end. -/
theorem exists_ends_waitWithin
    (limit : Limit)
    (span : Span) :
    ∃ millis left, (waitWithin limit span).Ends [⟨.wait millis, ()⟩] left := by
  unfold waitWithin
  cases limit with
  | none => exact ⟨_, _, .ask (.here _)⟩
  | some left =>
    dsimp only
    split <;> exact ⟨_, _, .ask (.here _)⟩

/-! ## Single attempts -/

section

variable
  (environment : Environment)
  (context : Context)
  (step : Step)
  (input : Object)

/-- How an attempt at a step goes, and its outcome if time allows one. -/
inductive Attempted : History → Option Outcome → Prop
  /-- No handler is called. -/
  | settled
      {outcome : Outcome}
      (dispatched : Dispatch.ofStep environment context step input = .settled outcome) :
      Attempted [] (some outcome)
  /-- The reply of a handler is waited for. -/
  | answered
      {reply : Reply}
      (dispatched : Dispatch.ofStep environment context step input =
        .call ⟨step, input, context⟩) :
      Attempted
        [⟨.invoke ⟨step, input, context⟩, reply⟩, ⟨.wait reply.delay.ticks, ()⟩]
        (some reply.outcome)
  /-- Time runs out before the reply of a handler. -/
  | cut
      {reply : Reply}
      {millis : Nat}
      (dispatched : Dispatch.ofStep environment context step input =
        .call ⟨step, input, context⟩)
      (short : millis < reply.delay.ticks) :
      Attempted [⟨.invoke ⟨step, input, context⟩, reply⟩, ⟨.wait millis, ()⟩] none

variable {environment context step input}

theorem attemptWithin_uses (limit : Limit) :
    (attemptWithin environment context step input limit).Uses Request.isDispatch := by
  unfold attemptWithin
  split
  · trivial
  · refine ⟨rfl, fun reply => (waitWithin_uses limit reply.delay).bind fun left => ?_⟩
    cases left <;> trivial

theorem attempted_of_ends
    {limit : Limit}
    {history : History}
    {result : Option (Outcome × Limit)}
    (ends : (attemptWithin environment context step input limit).Ends history result) :
    Attempted environment context step input history (result.map Prod.fst) := by
  unfold attemptWithin at ends
  split at ends
  next outcome dispatched =>
    obtain ⟨rfl, rfl⟩ := ends.of_done
    exact .settled dispatched
  next invocation dispatched =>
    obtain rfl := Dispatch.call_eq dispatched
    obtain ⟨reply, _, rfl, called⟩ := ends.of_request
    obtain ⟨left, _, _, rfl, waited, answered⟩ := called.of_bind
    rcases ends_waitWithin waited with ⟨some, -, rfl⟩ | ⟨millis, short, rfl, rfl⟩
    · obtain ⟨left, rfl⟩ := Option.isSome_iff_exists.mp some
      obtain ⟨rfl, rfl⟩ := answered.of_done
      exact .answered dispatched
    · obtain ⟨rfl, rfl⟩ := answered.of_done
      exact .cut dispatched short

theorem Attempted.attempts_eq_nil
    {history : History}
    {result : Option Outcome}
    (attempted : Attempted environment context step input history result) :
    history.attempts = [] := by
  cases attempted <;> rfl

/-- An attempt calls no handler but the one that its step is dispatched to. -/
theorem Attempted.dispatched
    {history : History}
    {result : Option Outcome}
    (attempted : Attempted environment context step input history result)
    {called : Invocation × Reply}
    (member : called ∈ history.invocations) :
    Dispatch.ofStep environment context step input = .call called.1 := by
  cases attempted <;> simp_all [Exchange.invocation?]

end

end WorkflowEngine
