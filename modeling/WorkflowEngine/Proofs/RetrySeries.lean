import Mathlib.Data.ENat.Lattice
import Mathlib.Data.List.Intervals
import WorkflowEngine.Proofs.Retry

/-!
# Series of retries

The replies of a handler and the clock decide how the retries of a failed step
go.  Without a limit they are made one after another up to the first success,
each of them after the wait that the outcome before it asks for.
-/

namespace WorkflowEngine

/-! ## Answers in turn -/

/-- Some values are those of a sequence from a number on. -/
def InTurn {α : Type} (sequence : Nat → α) (number : Nat) (values : List α) : Prop :=
  values = (List.range' number values.length).map sequence

namespace InTurn

variable {α : Type} {sequence : Nat → α} {number : Nat}

theorem nil : InTurn sequence number [] := rfl

/-- Values are taken from a sequence in turn if the first one is, and the others from the
next number on. -/
theorem cons_iff {value : α} {rest : List α} :
    InTurn sequence number (value :: rest) ↔
      value = sequence number ∧ InTurn sequence (number + 1) rest := by
  simp [InTurn, List.range'_succ]

end InTurn

/-- The time on the calendar that was told in an exchange. -/
def Exchange.time? : Exchange → Option Timestamp
  | ⟨.now, time⟩ => some time
  | _ => none

/-- How long an exchange took. -/
def Exchange.waited : Exchange → Nat
  | ⟨.wait millis, _⟩ => millis
  | _ => 0

namespace History

/-- The times on the calendar that were told. -/
def times (history : History) : List Timestamp := history.filterMap Exchange.time?

/-- The replies of the handlers that were called. -/
def replies (history : History) : List Reply := history.invocations.map Prod.snd

/-- How long the exchanges took together. -/
def waited (history : History) : Nat := (history.map Exchange.waited).sum

@[simp] theorem waited_append (first rest : History) :
    waited (first ++ rest) = waited first + waited rest := by
  simp [waited]

end History

/-- The outcome of an attempt, given the reply of the handler if one is called. -/
def Dispatch.outcome : Dispatch → Reply → Outcome
  | .settled outcome, _ => outcome
  | .call _, reply => reply.outcome

/-- How long an attempt takes. -/
def Dispatch.ticks : Dispatch → Reply → Nat
  | .settled _, _ => 0
  | .call _, reply => reply.delay.ticks

/-- What an attempt exchanges. -/
def Dispatch.exchanges : Dispatch → Reply → History
  | .settled _, _ => []
  | .call invocation, reply => [⟨.invoke invocation, reply⟩, ⟨.wait reply.delay.ticks, ()⟩]

/-- An attempt takes its time by waiting. -/
theorem Dispatch.waited_exchanges (dispatch : Dispatch) (reply : Reply) :
    (dispatch.exchanges reply).waited = dispatch.ticks reply := by
  cases dispatch <;> simp [exchanges, ticks, History.waited, Exchange.waited]

/-! ## Series -/

/-- A failed step, and all that its retries may meet.  They are numbered from one. -/
structure RetrySeries where
  environment : Environment
  context : Context
  step : Step
  input : Object
  policy : RetryPolicy
  /-- The outcome before the first retry. -/
  first : Outcome
  /-- What the handler replies to a retry. -/
  replies : Nat → Reply
  /-- When a retry is started. -/
  times : Nat → Timestamp

namespace RetrySeries

variable (series : RetrySeries)

/-- The retries, within a limit. -/
def program (limit : Limit) : Program Retried :=
  retryWithin series.environment series.context series.step series.input series.policy
    series.first limit

/-- What becomes of every retry. -/
def dispatch : Dispatch :=
  .ofStep series.environment series.context series.step series.input

/-- The outcome of a retry, or at zero the one before them all. -/
def outcome : Nat → Outcome
  | 0 => series.first
  | number + 1 => series.dispatch.outcome (series.replies (number + 1))

/-- The wait after a number of retries and before the next one. -/
def pause (number : Nat) : Span :=
  match (series.outcome number).result.retryAfterMs with
  | some millis => .ofMillis millis
  | none => series.policy.delay

/-- How long the next retry takes after a number of them, together with the wait before it. -/
def ticks (number : Nat) : Nat :=
  (series.pause number).ticks + series.dispatch.ticks (series.replies (number + 1))

/-- The time at which a retry is finished. -/
def finish : Nat → Nat
  | 0 => 0
  | number + 1 => finish number + series.ticks number

/-- What is left of the time until a deadline after a number of retries. -/
def left (deadline : Limit) (number : Nat) : Limit := deadline.map (· - series.finish number)

/-- The next retry after a number of them. -/
def attempt (number : Nat) : Attempt where
  number := number + 1
  startedAt := series.times (number + 1)
  outcome := series.outcome (number + 1)

/-- What is exchanged for the next retry after a number of them. -/
def exchanges (number : Nat) : History :=
  ⟨.wait (series.pause number).ticks, ()⟩ :: ⟨.now, series.times (number + 1)⟩ ::
    series.dispatch.exchanges (series.replies (number + 1))

/-- The number of the first retry that succeeds. -/
noncomputable def firstSuccess : ℕ∞ :=
  ⨅ (number : Nat) (_ : 0 < number ∧ (series.outcome number).succeeded = true), (number : ℕ∞)

/-- From a retry on, the handler and the calendar answer as they do in the series. -/
structure Meets (number : Nat) (history : History) : Prop where
  times : InTurn series.times number history.times
  replies : ∀ invocation, series.dispatch = .call invocation →
    InTurn series.replies number history.replies

variable {series}

/-- The wait that the policy asks for after an outcome is the pause of the series. -/
theorem delayAfter_outcome (number : Nat) :
    series.policy.delayAfter (series.outcome number).result = series.pause number := by
  unfold RetryPolicy.delayAfter pause
  cases (series.outcome number).result.retryAfterMs <;> rfl

theorem left_zero (deadline : Limit) : series.left deadline 0 = deadline := by
  simp [left, finish]

/-- Of the time that is left each retry takes its own. -/
theorem left_succ (deadline : Limit) (number : Nat) :
    series.left deadline (number + 1) =
      (series.left deadline number).map (· - series.ticks number) := by
  simp [left, finish, Function.comp_def, Nat.sub_sub]

/-- Later retries are not finished earlier. -/
theorem finish_mono : Monotone series.finish :=
  monotone_nat_of_le_succ fun number => Nat.le_add_right (series.finish number) _

/-- A retry takes the time of its wait and of its attempt. -/
theorem waited_exchanges (number : Nat) :
    (series.exchanges number).waited = series.ticks number := by
  have called := series.dispatch.waited_exchanges (series.replies (number + 1))
  unfold History.waited at called
  simp [exchanges, History.waited, Exchange.waited, ticks, called]

namespace Meets

variable {number millis : Nat} {history : History}

/-- Waiting reads neither the replies nor the calendar. -/
theorem wait_iff :
    series.Meets number (⟨.wait millis, ()⟩ :: history) ↔ series.Meets number history :=
  ⟨fun ⟨times, replies⟩ => ⟨times, replies⟩, fun ⟨times, replies⟩ => ⟨times, replies⟩⟩

/-- Without a handler only the calendar is asked for a retry. -/
theorem settled_iff
    {outcome : Outcome}
    {startedAt : Timestamp}
    (dispatched : series.dispatch = .settled outcome) :
    series.Meets number (⟨.now, startedAt⟩ :: history) ↔
      startedAt = series.times number ∧ series.Meets (number + 1) history := by
  have uncalled (invocation : Invocation) : series.dispatch ≠ .call invocation := by
    rw [dispatched]
    exact Dispatch.noConfusion
  constructor
  · rintro ⟨times, -⟩
    obtain ⟨same, times⟩ := InTurn.cons_iff.mp times
    exact ⟨same, times, fun invocation called => (uncalled invocation called).elim⟩
  · rintro ⟨same, times, -⟩
    exact ⟨InTurn.cons_iff.mpr ⟨same, times⟩,
      fun invocation called => (uncalled invocation called).elim⟩

/-- The handler is asked next to the calendar. -/
theorem call_iff
    {invocation : Invocation}
    {startedAt : Timestamp}
    {reply : Reply}
    (dispatched : series.dispatch = .call invocation) :
    series.Meets number (⟨.now, startedAt⟩ :: ⟨.invoke invocation, reply⟩ :: history) ↔
      startedAt = series.times number ∧ reply = series.replies number ∧
        series.Meets (number + 1) history := by
  constructor
  · rintro ⟨times, replies⟩
    obtain ⟨sameTime, times⟩ := InTurn.cons_iff.mp times
    obtain ⟨sameReply, replies⟩ := InTurn.cons_iff.mp (replies invocation dispatched)
    exact ⟨sameTime, sameReply, times, fun _ _ => replies⟩
  · rintro ⟨sameTime, sameReply, times, replies⟩
    exact ⟨InTurn.cons_iff.mpr ⟨sameTime, times⟩,
      fun _ _ => InTurn.cons_iff.mpr ⟨sameReply, replies invocation dispatched⟩⟩

end Meets

variable (series)

/-- How the retries go on after one of them, or after time has run out in it. -/
def goOn
    (remaining number : Nat)
    (startedAt : Timestamp) : Option (Outcome × Limit) → Program Retried
  | none => return {}
  | some (outcome, left) =>
    if outcome.succeeded then
      return { attempts := [{ number, startedAt, outcome }], outcome := some outcome }
    else do
      let rest ← retryFrom series.environment series.context series.step series.input
        series.policy remaining (number + 1) outcome left
      return rest.cons { number, startedAt, outcome }

/-! ## Every series can be met -/

/-- An attempt comes to its end, with the reply that is next in turn. -/
theorem exists_ends_attempt (number : Nat) (limit : Limit) :
    ∃ history result,
      (attemptWithin series.environment series.context series.step series.input limit).Ends
        history result ∧
      ∀ rest, series.Meets (number + 1) rest →
        series.Meets number (⟨.now, series.times number⟩ :: (history ++ rest)) := by
  unfold attemptWithin
  split
  next outcome dispatched =>
    exact ⟨[], _, .here _, fun rest meets => (Meets.settled_iff dispatched).mpr ⟨rfl, meets⟩⟩
  next invocation dispatched =>
    obtain ⟨millis, left, waited⟩ :=
      exists_ends_waitWithin limit (series.replies number).delay
    have meets (rest : History) (meets : series.Meets (number + 1) rest) :
        series.Meets number (⟨.now, series.times number⟩ ::
          (⟨.invoke invocation, series.replies number⟩ :: ([⟨.wait millis, ()⟩] ++ []) ++ rest)) :=
      (Meets.call_iff dispatched).mpr ⟨rfl, rfl, Meets.wait_iff.mpr meets⟩
    cases left with
    | none => exact ⟨_, _, .ask (waited.bind (.here _)), meets⟩
    | some left => exact ⟨_, _, .ask (waited.bind (.here _)), meets⟩

/-- Retries come to an end, however many are left, with replies and times in turn. -/
theorem exists_ends_retryFrom
    (remaining number : Nat)
    (previous : Outcome)
    (limit : Limit) :
    ∃ history retried,
      (retryFrom series.environment series.context series.step series.input series.policy
        remaining number previous limit).Ends history retried ∧
      series.Meets number history := by
  have nothing (number : Nat) : series.Meets number [] := ⟨.nil, fun _ _ => .nil⟩
  induction remaining generalizing number previous limit with
  | zero => exact ⟨[], _, .here _, nothing number⟩
  | succ remaining inductionHypothesis =>
    obtain ⟨millis, left, waited⟩ :=
      exists_ends_waitWithin limit (series.policy.delayAfter previous.result)
    cases left with
    | none => exact ⟨_, _, waited.bind (.here _), Meets.wait_iff.mpr (nothing number)⟩
    | some left =>
      obtain ⟨called, result, attempted, meets⟩ := series.exists_ends_attempt number left
      obtain ⟨rest, retried, continued, met⟩ : ∃ rest retried,
          (series.goOn remaining number (series.times number) result).Ends rest retried ∧
            series.Meets (number + 1) rest := by
        unfold goOn
        split
        · exact ⟨[], _, .here _, nothing _⟩
        · split
          · exact ⟨[], _, .here _, nothing _⟩
          · obtain ⟨rest, retried, ended, met⟩ := inductionHypothesis (number + 1) _ _
            exact ⟨_, _, ended.bind (.here _), by rwa [List.append_nil]⟩
      exact ⟨_, retried, waited.bind (.ask (attempted.bind continued)),
        Meets.wait_iff.mpr (meets rest met)⟩

/-- Within any limit the retries come to an end. -/
theorem exists_ends (limit : Limit) :
    ∃ history retried, (series.program limit).Ends history retried ∧ series.Meets 1 history :=
  series.exists_ends_retryFrom _ _ _ _

/-! ## One retry -/

variable {series}

/-- An attempt that meets a series has the outcome of the series, unless time runs out. -/
theorem attempted_of_ends
    {number : Nat}
    {limit : Limit}
    {startedAt : Timestamp}
    {history rest : History}
    {result : Option (Outcome × Limit)}
    (ends : (attemptWithin series.environment series.context series.step series.input
      limit).Ends history result)
    (meets : series.Meets (number + 1) (⟨.now, startedAt⟩ :: (history ++ rest))) :
    let ticks := series.dispatch.ticks (series.replies (number + 1))
    startedAt = series.times (number + 1) ∧
      (((∀ bound ∈ limit, ticks ≤ bound) ∧
          result = some (series.outcome (number + 1), limit.map (· - ticks)) ∧
          history = series.dispatch.exchanges (series.replies (number + 1)) ∧
          series.Meets (number + 2) rest) ∨
        ∃ bound ∈ limit, bound < ticks ∧ result = none) := by
  unfold attemptWithin at ends
  split at ends
  next outcome dispatched =>
    change series.dispatch = .settled outcome at dispatched
    obtain ⟨rfl, rfl⟩ := ends.of_done
    obtain ⟨rfl, met⟩ := (Meets.settled_iff dispatched).mp meets
    refine ⟨rfl, .inl ?_⟩
    simp only [RetrySeries.outcome, dispatched]
    exact ⟨fun bound _ => Nat.zero_le bound, by simp [Dispatch.outcome, Dispatch.ticks], rfl, met⟩
  next invocation dispatched =>
    change series.dispatch = .call invocation at dispatched
    obtain ⟨reply, _, rfl, called⟩ := ends.of_request
    obtain ⟨left, _, _, rfl, waited, answered⟩ := called.of_bind
    obtain ⟨rfl, rfl, met⟩ := (Meets.call_iff dispatched).mp meets
    refine ⟨rfl, ?_⟩
    simp only [RetrySeries.outcome, dispatched]
    rcases waits_of_ends waited with ⟨fits, rfl, rfl⟩ | ⟨bound, limited, short, rfl, rfl⟩
    · obtain ⟨rfl, rfl⟩ := answered.of_done
      exact .inl ⟨fits, rfl, rfl, Meets.wait_iff.mp met⟩
    · obtain ⟨rfl, rfl⟩ := answered.of_done
      exact .inr ⟨bound, limited, short, rfl⟩

/-- The next retry is finished as in the series, unless time runs out before. -/
theorem retried_of_ends
    {remaining number : Nat}
    {limit : Limit}
    {history : History}
    {retried : Retried}
    (ends : (retryFrom series.environment series.context series.step series.input series.policy
      (remaining + 1) (number + 1) (series.outcome number) limit).Ends history retried)
    (meets : series.Meets (number + 1) history) :
    (∃ rest, history = series.exchanges number ++ rest ∧ series.Meets (number + 2) rest ∧
        (∀ bound ∈ limit, series.ticks number ≤ bound) ∧
        (series.goOn remaining (number + 1) (series.times (number + 1))
          (some (series.outcome (number + 1), limit.map (· - series.ticks number)))).Ends
          rest retried) ∨
      ∃ bound ∈ limit, bound < series.ticks number ∧ retried = {} := by
  obtain ⟨left, _, _, rfl, waited, began⟩ := Program.Ends.of_bind ends
  rw [delayAfter_outcome] at waited
  rcases waits_of_ends waited with ⟨inTime, rfl, rfl⟩ | ⟨bound, limited, short, rfl, rfl⟩
  · obtain ⟨startedAt, _, rfl, tried⟩ := began.of_request
    obtain ⟨result, _, rest, rfl, attempted, continued⟩ := tried.of_bind
    obtain ⟨rfl, ⟨fits, rfl, rfl, met⟩ | ⟨bound, limited, short, rfl⟩⟩ :=
      attempted_of_ends attempted (Meets.wait_iff.mp meets)
    · refine .inl ⟨rest, rfl, met, fun bound limited => ?_, ?_⟩
      · have still := fits _ (Option.mem_map_of_mem _ limited)
        have first := inTime bound limited
        unfold ticks
        omega
      · have left : limit.map (· - series.ticks number) =
            (limit.map (· - (series.pause number).ticks)).map
              (· - series.dispatch.ticks (series.replies (number + 1))) := by
          simp [ticks, Function.comp_def, Nat.sub_sub]
        rw [left]
        exact continued
    · obtain ⟨-, rfl⟩ := continued.of_done
      obtain ⟨whole, allowed, rfl⟩ := Option.mem_map.mp limited
      refine .inr ⟨whole, allowed, ?_, rfl⟩
      unfold ticks
      omega
  · obtain ⟨-, rfl⟩ := began.of_done
    exact .inr ⟨bound, limited, Nat.lt_add_right _ short, rfl⟩

/-! ## All retries -/

/-- The retries after a number of them have failed, up to a last one. -/
def Fails (series : RetrySeries) (number last : Nat) : Prop :=
  ∀ retry, number < retry → retry ≤ last → (series.outcome retry).succeeded = false

/-- What comes of the retries after a number of them, when so many were made in all. -/
inductive Verdict (series : RetrySeries) (deadline : Limit) (number : Nat) :
    Nat → Option Outcome → Prop
  /-- The next retry succeeds. -/
  | succeeded
      {last : Nat}
      (failed : series.Fails number last)
      (allowed : last < series.policy.maxRetries)
      (success : (series.outcome (last + 1)).succeeded = true) :
      Verdict series deadline number (last + 1) (some (series.outcome (last + 1)))
  /-- No retry is left. -/
  | exhausted
      (failed : series.Fails number series.policy.maxRetries) :
      Verdict series deadline number series.policy.maxRetries
        (some (series.policy.exhausted (series.outcome series.policy.maxRetries)))
  /-- The next retry would not be finished in time. -/
  | cut
      {last bound : Nat}
      (failed : series.Fails number last)
      (allowed : last < series.policy.maxRetries)
      (limited : bound ∈ deadline)
      (short : bound < series.finish (last + 1)) :
      Verdict series deadline number last none

/-- How the retries after a number of them end, when so many were made in all. -/
structure Concluded
    (series : RetrySeries)
    (deadline : Limit)
    (number total : Nat)
    (history : History)
    (retried : Retried) : Prop where
  ahead : number ≤ total
  inTime : ∀ bound ∈ deadline, series.finish total ≤ bound
  attempts : retried.attempts = (List.Ico number total).map series.attempt
  history_eq : retried.outcome.isSome = true →
    history = (List.Ico number total).flatMap series.exchanges
  verdict : series.Verdict deadline number total retried.outcome

/-- The retries have failed from one number on if the next one has and all after it. -/
theorem Fails.cons
    {number last : Nat}
    (failed : (series.outcome (number + 1)).succeeded = false)
    (fails : series.Fails (number + 1) last) :
    series.Fails number last := by
  intro retry behind upTo
  obtain rfl | later := Nat.eq_or_lt_of_le (Nat.succ_le_of_lt behind)
  · exact failed
  · exact fails retry later upTo

/-- A retry that failed leaves the verdict to those after it. -/
theorem Verdict.cons
    {deadline : Limit}
    {number total : Nat}
    {outcome : Option Outcome}
    (verdict : series.Verdict deadline (number + 1) total outcome)
    (failed : (series.outcome (number + 1)).succeeded = false) :
    series.Verdict deadline number total outcome := by
  cases verdict with
  | succeeded fails allowed success => exact .succeeded (fails.cons failed) allowed success
  | exhausted fails => exact .exhausted (fails.cons failed)
  | cut fails allowed limited short => exact .cut (fails.cons failed) allowed limited short

/-- A failed retry comes before those that follow it. -/
theorem Concluded.cons
    {deadline : Limit}
    {number total : Nat}
    {history : History}
    {retried : Retried}
    (concluded : series.Concluded deadline (number + 1) total history retried)
    (failed : (series.outcome (number + 1)).succeeded = false) :
    series.Concluded deadline number total (series.exchanges number ++ history)
      (retried.cons (series.attempt number)) := by
  have split : List.Ico number total = number :: List.Ico (number + 1) total :=
    List.Ico.eq_cons concluded.ahead
  refine ⟨Nat.le_of_succ_le concluded.ahead, concluded.inTime, ?_, fun ended => ?_, ?_⟩
  · rw [split, List.map_cons, ← concluded.attempts]
    rfl
  · rw [split, List.flatMap_cons, ← concluded.history_eq ended]
  · exact concluded.verdict.cons failed

/-- How the retries end in what is left of the time until a deadline. -/
theorem exists_concluded
    {deadline : Limit}
    {remaining number : Nat}
    {history : History}
    {retried : Retried}
    (ends : (retryFrom series.environment series.context series.step series.input series.policy
      remaining (number + 1) (series.outcome number)
      (series.left deadline number)).Ends history retried)
    (meets : series.Meets (number + 1) history)
    (inTime : ∀ bound ∈ deadline, series.finish number ≤ bound)
    (all : number + remaining = series.policy.maxRetries) :
    ∃ total, series.Concluded deadline number total history retried := by
  have none (number : Nat) : series.Fails number number := fun _ behind upTo =>
    (Nat.not_lt_of_le upTo behind).elim
  induction remaining generalizing number history retried with
  | zero =>
    obtain ⟨rfl, rfl⟩ := ends.of_done
    obtain rfl : number = series.policy.maxRetries := all
    exact ⟨_, le_rfl, inTime, by simp, fun _ => by simp, .exhausted (none _)⟩
  | succ remaining inductionHypothesis =>
    have allowed : number < series.policy.maxRetries := by omega
    have finish_succ : series.finish (number + 1) = series.finish number + series.ticks number :=
      rfl
    rcases retried_of_ends ends meets with
      ⟨rest, rfl, met, fits, continued⟩ | ⟨bound, limited, short, rfl⟩
    · have inTime : ∀ bound ∈ deadline, series.finish (number + 1) ≤ bound := by
        intro bound limited
        have before := inTime bound limited
        have still := fits _ (Option.mem_map_of_mem _ limited)
        omega
      unfold goOn at continued
      dsimp only at continued
      split at continued
      next success =>
        obtain ⟨rfl, rfl⟩ := continued.of_done
        exact ⟨number + 1, Nat.le_succ number, inTime, by simp [attempt],
          fun _ => by simp, .succeeded (none number) allowed success⟩
      next failure =>
        obtain ⟨others, _, _, rfl, followed, last⟩ := continued.of_bind
        obtain ⟨rfl, rfl⟩ := last.of_done
        rw [List.append_nil] at met ⊢
        rw [← left_succ] at followed
        obtain ⟨total, concluded⟩ := inductionHypothesis followed met inTime (by omega)
        exact ⟨total, concluded.cons (by simpa using failure)⟩
    · obtain ⟨whole, given, rfl⟩ := Option.mem_map.mp limited
      refine ⟨number, le_rfl, inTime, by simp, fun ended => by simp at ended, ?_⟩
      exact .cut (none number) allowed given (by omega)

/-- How the retries within a limit end. -/
theorem concluded_of_ends
    {limit : Limit}
    {history : History}
    {retried : Retried}
    (ends : (series.program limit).Ends history retried)
    (meets : series.Meets 1 history) :
    ∃ total, series.Concluded limit 0 total history retried := by
  rw [← series.left_zero limit] at ends
  exact exists_concluded ends meets (fun _ _ => Nat.zero_le _) (Nat.zero_add _)

/-! ## The first success -/

/-- Retries that failed come before the first success. -/
theorem le_firstSuccess
    {last : Nat}
    (fails : series.Fails 0 last) :
    ((last + 1 : Nat) : ℕ∞) ≤ series.firstSuccess := by
  refine le_iInf₂ fun number first => ?_
  obtain ⟨positive, succeeds⟩ := first
  rw [Nat.cast_le]
  by_contra early
  rw [fails number positive (by omega)] at succeeds
  cases succeeds

/-- The first success follows retries that failed. -/
theorem firstSuccess_eq
    {last : Nat}
    (fails : series.Fails 0 last)
    (success : (series.outcome (last + 1)).succeeded = true) :
    series.firstSuccess = ((last + 1 : Nat) : ℕ∞) :=
  le_antisymm (iInf₂_le _ ⟨Nat.succ_pos last, success⟩) (le_firstSuccess fails)

/-- Where time does not run out, the number of retries and what comes of them are
decided by the first success. -/
theorem Verdict.decided
    {deadline : Limit}
    {total : Nat}
    {outcome : Option Outcome}
    (verdict : series.Verdict deadline 0 total outcome)
    (ended : outcome.isSome = true) :
    (total : ℕ∞) = min series.firstSuccess series.policy.maxRetries ∧
      (series.firstSuccess ≤ series.policy.maxRetries →
        (series.outcome total).succeeded = true ∧ outcome = some (series.outcome total)) ∧
      (series.policy.maxRetries < series.firstSuccess →
        outcome = some (series.policy.exhausted (series.outcome series.policy.maxRetries))) := by
  cases verdict with
  | @succeeded last fails allowed success =>
    have first := firstSuccess_eq fails success
    have within : series.firstSuccess ≤ series.policy.maxRetries := by
      rw [first, Nat.cast_le]
      exact allowed
    exact ⟨by rw [min_eq_left within, first], fun _ => ⟨success, rfl⟩,
      fun beyond => (beyond.not_ge within).elim⟩
  | exhausted fails =>
    have beyond : (series.policy.maxRetries : ℕ∞) < series.firstSuccess :=
      (Nat.cast_lt.mpr (Nat.lt_succ_self _)).trans_le (le_firstSuccess fails)
    exact ⟨by rw [min_eq_right beyond.le], fun within => (beyond.not_ge within).elim,
      fun _ => rfl⟩
  | cut => cases ended

/-- Without a limit time does not run out. -/
theorem Verdict.isSome
    {number total : Nat}
    {outcome : Option Outcome}
    (verdict : series.Verdict none number total outcome) :
    outcome.isSome = true := by
  cases verdict with
  | succeeded => rfl
  | exhausted => rfl
  | cut _ _ limited _ => cases limited

/-- Without a limit a failed step is tried again up to the first success, but never more
often than the policy says.  Before every retry comes the wait that the outcome before it
asks for, or else that of the policy.  The first success is the outcome of the whole, and
where there is none, the failure of the last retry. -/
theorem tries_until_success (series : RetrySeries) :
    (∃ history retried, (series.program none).Ends history retried ∧ series.Meets 1 history) ∧
    ∀ history retried, (series.program none).Ends history retried → series.Meets 1 history →
      ∃ total : Nat, (total : ℕ∞) = min series.firstSuccess series.policy.maxRetries ∧
        history = (List.range total).flatMap series.exchanges ∧
        retried.attempts = (List.range total).map series.attempt ∧
        (∀ attempt ∈ retried.attempts.dropLast, attempt.outcome.succeeded = false) ∧
        (series.firstSuccess ≤ series.policy.maxRetries →
          (series.outcome total).succeeded = true ∧
          retried.outcome = some (series.outcome total)) ∧
        (series.policy.maxRetries < series.firstSuccess →
          ∃ failure, retried.outcome = some failure ∧
            failure.result = .fail ("failed after " ++ toString series.policy.maxRetries ++
              " retries: " ++ (series.outcome series.policy.maxRetries).result.errorMessage) ∧
            failure.raised = (series.outcome series.policy.maxRetries).raised) := by
  refine ⟨series.exists_ends none, fun history retried ends meets => ?_⟩
  obtain ⟨total, concluded⟩ := concluded_of_ends ends meets
  have ended := concluded.verdict.isSome
  obtain ⟨count, success, failure⟩ := concluded.verdict.decided ended
  have attempts := concluded.attempts
  have whole := concluded.history_eq ended
  rw [List.Ico.zero_bot] at attempts whole
  exact ⟨total, count, whole, attempts, (retries_of_ends ends).failed_of_mem_dropLast, success,
    fun beyond => ⟨_, failure beyond, rfl, rfl⟩⟩

end RetrySeries
end WorkflowEngine
