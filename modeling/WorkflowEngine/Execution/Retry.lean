import WorkflowEngine.Execution.Dispatch

/-!
# Retries

A failed step may be tried again a bounded number of times, with a wait before
every attempt.
-/

namespace WorkflowEngine

/-- How often a step is tried again, and how long to wait before. -/
structure RetryPolicy where
  maxRetries : Nat
  delay : Span
deriving Repr, DecidableEq, Inhabited

namespace RetryPolicy

/-- The policy for a step: what it says about its failure, else what it says
itself, else what the settings say. -/
def ofStep (step : Step) (settings : Settings) : RetryPolicy where
  maxRetries := (step.failure.maxRetries.or step.maxRetries).getD settings.maxRetries
  delay := .ofMillis ((step.failure.retryDelayMs.or step.retryDelayMs).getD settings.retryDelayMs)

/-- The wait after a result, which may ask for one of its own. -/
def delayAfter (policy : RetryPolicy) (previous : StepResult) : Span :=
  (previous.retryAfterMs.map Span.ofMillis).getD policy.delay

/-- The outcome once every retry has failed. -/
def exhausted (policy : RetryPolicy) (last : Outcome) : Outcome where
  result := .fail
    ("failed after " ++ toString policy.maxRetries ++ " retries: " ++ last.result.errorMessage)
  raised := last.raised
  duration := last.duration

end RetryPolicy

/-- One more attempt at a step. -/
structure Attempt where
  /-- One for the first retry. -/
  number : Nat
  startedAt : Timestamp
  outcome : Outcome
deriving Inhabited

/-- The attempts that were finished, and the outcome of the whole unless a
limit was reached first. -/
structure Retried where
  attempts : List Attempt := []
  outcome : Option Outcome := none
deriving Inhabited

/-- Puts an attempt before those that follow it. -/
def Retried.cons (rest : Retried) (attempt : Attempt) : Retried :=
  { rest with attempts := attempt :: rest.attempts }

section

variable
  (environment : Environment)
  (context : Context)
  (step : Step)
  (input : Object)
  (policy : RetryPolicy)

/-- Makes up to a number of further attempts after a failed one, the first of
them with a given number. -/
def retryFrom : Nat → Nat → Outcome → Limit → Program Retried
  | 0, _, previous, _ => return { outcome := some (policy.exhausted previous) }
  | remaining + 1, number, previous, limit => do
    match ← waitWithin limit (policy.delayAfter previous.result) with
    | none => return {}
    | some left =>
      let startedAt ← Program.request .now
      match ← attemptWithin environment context step input left with
      | none => return {}
      | some (outcome, left) =>
        let attempt : Attempt := { number, startedAt, outcome }
        if outcome.succeeded then return { attempts := [attempt], outcome := some outcome }
        else
          let rest ← retryFrom remaining (number + 1) outcome left
          return rest.cons attempt

/-- Tries a step again until it succeeds, the retries are used up, or a limit
is reached. -/
def retryWithin (first : Outcome) (limit : Limit) : Program Retried :=
  retryFrom environment context step input policy policy.maxRetries 1 first limit

end

end WorkflowEngine
