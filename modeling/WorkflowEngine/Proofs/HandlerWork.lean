import WorkflowEngine.Proofs.FanOut
import WorkflowEngine.Proofs.Retry

/-!
# Finished work

A handler takes some time, and the wait that follows its call is long enough for it
or not.  So a history tells which of the handlers that were called have finished.
A step that a dry run only simulates leaves no exchange behind, but its outcome is
work as well.
-/

namespace WorkflowEngine

/-- A step that was dispatched, with the outcome that came of it. -/
structure Work where
  invocation : Invocation
  outcome : Outcome

namespace Work

/-- The work of a handler that was called. -/
def ofCall (called : Invocation × Reply) : Work := ⟨called.1, called.2.outcome⟩

/-- Whether a handler was called for it.  If not, then a dry run has simulated the
step, or there is no handler. -/
def isCall (environment : Environment) (work : Work) : Bool :=
  match
    Dispatch.ofStep environment work.invocation.context work.invocation.step
      work.invocation.input
  with
  | .call _ => true
  | .settled _ => false

end Work

namespace History

/-- The calls that finish in a history where some are pending before it.  When a wait
is over, those have finished that take no longer, and the others are given up. -/
def finishedFrom : List (Invocation × Reply) → History → List (Invocation × Reply)
  | _, [] => []
  | pending, ⟨.invoke invocation, reply⟩ :: rest =>
    finishedFrom (pending.concat ⟨invocation, reply⟩) rest
  | pending, ⟨.wait millis, _⟩ :: rest =>
    pending.filter (fun called => called.2.delay.ticks ≤ millis) ++ finishedFrom [] rest
  | pending, _ :: rest => finishedFrom pending rest

/-- The calls that finish in a history. -/
def finished (history : History) : List (Invocation × Reply) := finishedFrom [] history

/-- The calls that finish in a history are those of some works, and none of them is
pending behind it. -/
def Completes (environment : Environment) (history : History) (works : List Work) : Prop :=
  ∀ rest, (finished (history ++ rest)).map .ofCall =
    works.filter (·.isCall environment) ++ (finished rest).map .ofCall

section

variable {environment : Environment} {history : History}

theorem Completes.append
    {first rest : History}
    {works more : List Work}
    (begun : first.Completes environment works)
    (continued : rest.Completes environment more) :
    Completes environment (first ++ rest) (works ++ more) := by
  intro last
  rw [List.append_assoc, begun, continued, List.filter_append, List.append_assoc]

theorem Completes.finished_eq
    {works : List Work}
    (completes : history.Completes environment works) :
    history.finished.map .ofCall = works.filter (·.isCall environment) := by
  simpa [finished, finishedFrom] using completes []

theorem finished_of_silent
    (silent : history.invocations = [])
    (rest : History) :
    finished (history ++ rest) = finished rest := by
  induction history with
  | nil => rfl
  | cons exchange others inductionHypothesis =>
    obtain ⟨request, answer⟩ := exchange
    rw [invocations_cons] at silent
    have still := inductionHypothesis (List.append_eq_nil_iff.mp silent).2
    cases request with
    | invoke => cases (List.append_eq_nil_iff.mp silent).1
    | _ => exact still

/-- Where no handler is called, no work is finished. -/
theorem Completes.of_silent (silent : history.invocations = []) :
    history.Completes environment [] := by
  intro rest
  rw [finished_of_silent silent]
  rfl

theorem Completes.append_silent
    {first rest : History}
    {works : List Work}
    (completes : first.Completes environment works)
    (silent : rest.invocations = []) :
    Completes environment (first ++ rest) works := by
  simpa using completes.append (.of_silent silent)

theorem Completes.cons
    {exchange : Exchange}
    {works : List Work}
    (completes : history.Completes environment works)
    (silent : exchange.invocation? = none) :
    Completes environment (exchange :: history) works := by
  have alone : History.Completes environment [exchange] [] := .of_silent (by simp [silent])
  exact alone.append completes

/-- Before a wait, all calls are pending. -/
theorem finishedFrom_append
    (unwaited : ∀ exchange ∈ history, ∀ millis, exchange.request ≠ .wait millis)
    (pending : List (Invocation × Reply))
    (rest : History) :
    finishedFrom pending (history ++ rest) =
      finishedFrom (pending ++ history.invocations) rest := by
  induction history generalizing pending with
  | nil => simp
  | cons exchange others inductionHypothesis =>
    obtain ⟨request, answer⟩ := exchange
    obtain ⟨unwaiting, unwaited⟩ := List.forall_mem_cons.mp unwaited
    have still := inductionHypothesis unwaited
    cases request with
    | invoke invocation =>
      refine (still _).trans ?_
      simp [Exchange.invocation?]
    | wait millis => exact (unwaiting millis rfl).elim
    | _ => exact still _

end

end History

/-! ## Attempts -/

section

variable
  {environment : Environment}
  {context : Context}
  {step : Step}
  {input : Object}
  {history : History}

/-- The work of an attempt that comes to an outcome. -/
theorem Attempted.completes
    {result : Option Outcome}
    (attempted : Attempted environment context step input history result) :
    history.Completes environment (result.toList.map (Work.mk ⟨step, input, context⟩)) := by
  intro rest
  cases attempted with
  | settled dispatched => simp [Work.isCall, dispatched]
  | answered dispatched =>
    simp [Work.isCall, dispatched, History.finished, History.finishedFrom, Work.ofCall]
  | cut dispatched short =>
    simp [History.finished, History.finishedFrom, Nat.not_le_of_lt short]

/-- The work of the retries that come to an outcome. -/
theorem Retries.completes
    {policy : RetryPolicy}
    {remaining number : Nat}
    {previous : Outcome}
    {retried : Retried}
    (retries : Retries environment context step input policy remaining number previous
      history retried) :
    history.Completes environment
      (retried.attempts.map fun attempt => ⟨⟨step, input, context⟩, attempt.outcome⟩) := by
  induction retries with
  | exhausted => exact .of_silent rfl
  | late => exact .of_silent rfl
  | cut attempted => exact .cons (.cons attempted.completes rfl) rfl
  | succeeded attempted => exact .cons (.cons attempted.completes rfl) rfl
  | failed attempted _ _ inductionHypothesis =>
    exact .cons (.cons (attempted.completes.append inductionHypothesis) rfl) rfl

end

/-! ## Fan-outs -/

/-- An attempt takes as long as its handler. -/
@[simp] theorem Reply.duration_outcome (reply : Reply) : reply.outcome.duration = reply.delay := by
  unfold outcome
  split <;> rfl

namespace Branch

/-- The work of a branch, if its sub-step was dispatched. -/
def work? (context : Context) : Branch → Option Work
  | .skipped _ => none
  | .ran step input _ outcome =>
    match
      Condition.evaluateAll context.semantics step.conditions (.object context.data),
      step.resolveInput context
    with
    | .ok true, .ok _ => some ⟨⟨step, input, context⟩, outcome⟩
    | _, _ => none

/-- The work of the branches that take no longer than a wait. -/
def works (context : Context) (millis : Nat) (branches : List Branch) : List Work :=
  branches.filterMap fun branch =>
    if branch.duration.ticks ≤ millis then branch.work? context else none

theorem works_ran
    {context : Context}
    {step : Step}
    {input : Object}
    (met : Condition.evaluateAll context.semantics step.conditions (.object context.data) =
      .ok true)
    (resolved : step.resolveInput context = .ok input)
    (startedAt : Timestamp)
    (outcome : Outcome)
    (millis : Nat) :
    works context millis [.ran step input startedAt outcome] =
      if outcome.duration.ticks ≤ millis then [⟨⟨step, input, context⟩, outcome⟩] else [] := by
  by_cases timely : outcome.duration.ticks ≤ millis <;>
    simp [works, work?, duration, met, resolved, timely]

theorem step_of_work?
    {context : Context}
    {branch : Branch}
    {work : Work}
    (worked : branch.work? context = some work) :
    work.invocation.step = branch.step := by
  cases branch with
  | skipped => cases worked
  | ran =>
    unfold work? at worked
    dsimp only at worked
    split at worked
    · cases worked
      rfl
    · cases worked

theorem exists_of_mem_works
    {context : Context}
    {millis : Nat}
    {branches : List Branch}
    {work : Work}
    (member : work ∈ works context millis branches) :
    ∃ branch ∈ branches, work.invocation.step = branch.step := by
  obtain ⟨branch, found, worked⟩ := List.mem_filterMap.mp member
  split at worked
  · exact ⟨branch, found, step_of_work? worked⟩
  · cases worked

/-- Neither a time nor those of some branches are longer than the longest of them. -/
theorem ticks_le_foldl
    (branches : List Branch)
    (span : Span) :
    span.ticks ≤ (branches.foldl
        (fun longest branch =>
          if branch.duration.outlasts longest then branch.duration else longest) span).ticks ∧
      ∀ branch ∈ branches, branch.duration.ticks ≤ (branches.foldl
        (fun longest branch =>
          if branch.duration.outlasts longest then branch.duration else longest) span).ticks := by
  induction branches generalizing span with
  | nil => simp
  | cons first rest inductionHypothesis =>
    rw [List.foldl_cons]
    split
    next outlasts =>
      obtain ⟨lower, others⟩ := inductionHypothesis first.duration
      have longer : span.ticks ≤ first.duration.ticks := by
        simp only [Span.outlasts, Bool.or_eq_true, Bool.and_eq_true, beq_iff_eq,
          decide_eq_true_eq] at outlasts
        omega
      exact ⟨Nat.le_trans longer lower, List.forall_mem_cons.mpr ⟨lower, others⟩⟩
    next shorter =>
      obtain ⟨lower, others⟩ := inductionHypothesis span
      have within : first.duration.ticks ≤ span.ticks := by
        simp only [Span.outlasts, Bool.or_eq_true, Bool.and_eq_true, beq_iff_eq,
          decide_eq_true_eq] at shorter
        omega
      exact ⟨lower, List.forall_mem_cons.mpr ⟨Nat.le_trans within lower, others⟩⟩

/-- A fan-out that is waited for loses nothing. -/
theorem works_longest (context : Context) (branches : List Branch) :
    works context (longest branches).ticks branches =
      branches.filterMap (·.work? context) := by
  apply List.filterMap_congr
  intro branch member
  exact if_pos ((ticks_le_foldl branches .zero).2 branch member)

end Branch

section

variable
  {environment : Environment}
  {context : Context}
  {steps : List Step}
  {history : History}
  {branches : List Branch}

/-- While branches begin, none of them is waited for. -/
theorem FannedOut.unwaited
    (fanned : FannedOut environment context steps history branches) :
    ∀ exchange ∈ history, ∀ millis, exchange.request ≠ .wait millis := by
  induction fanned with
  | nil => simp
  | cons branched _ inductionHypothesis =>
    intro exchange member
    rcases List.mem_append.mp member with member | member
    · cases branched <;> simp at member <;> rcases member with rfl | rfl <;> nofun
    · exact inductionHypothesis exchange member

/-- The calls of a branch in time are its work, unless it is settled at once. -/
theorem Branched.calls_eq
    {step : Step}
    {branch : Branch}
    (branched : Branched environment context step history branch)
    (millis : Nat) :
    (history.invocations.filter (fun called => called.2.delay.ticks ≤ millis)).map .ofCall =
      (Branch.works context millis [branch]).filter (·.isCall environment) := by
  cases branched with
  | inactive => simp [Branch.works, Branch.work?]
  | unmet => simp [Branch.works, Branch.work?]
  | unevaluated _ broken => simp [Branch.works, Branch.work?, broken, Exchange.invocation?]
  | unresolved _ met unresolved =>
    simp [Branch.works, Branch.work?, met, unresolved, Exchange.invocation?]
  | settled _ met resolved dispatched =>
    rw [Branch.works_ran met resolved]
    split <;> simp [Work.isCall, dispatched, Exchange.invocation?]
  | @called _ _ reply _ met resolved dispatched =>
    rw [Branch.works_ran met resolved, Reply.duration_outcome]
    by_cases timely : reply.delay.ticks ≤ millis <;>
      simp [timely, Work.isCall, Work.ofCall, dispatched, Exchange.invocation?]

/-- The calls of a fan-out in time are the work of its branches. -/
theorem FannedOut.calls_eq
    (fanned : FannedOut environment context steps history branches)
    (millis : Nat) :
    (history.invocations.filter (fun called => called.2.delay.ticks ≤ millis)).map .ofCall =
      (Branch.works context millis branches).filter (·.isCall environment) := by
  induction fanned with
  | nil => rfl
  | @cons step steps first rest branch branches branched _ inductionHypothesis =>
    have same : Branch.works context millis (branch :: branches) =
        Branch.works context millis [branch] ++ Branch.works context millis branches :=
      List.filterMap_append (l := [branch])
    rw [same, List.filter_append, History.invocations_append, List.filter_append,
      List.map_append, inductionHypothesis, branched.calls_eq]

/-- Only the steps that are fanned out do any work. -/
theorem FannedOut.mem_steps_of_mem_works
    (fanned : FannedOut environment context steps history branches)
    {millis : Nat}
    {work : Work}
    (member : work ∈ Branch.works context millis branches) :
    work.invocation.step ∈ steps := by
  obtain ⟨branch, found, same⟩ := Branch.exists_of_mem_works member
  obtain ⟨step, listed, _, branched⟩ := fanned.exists_branched branch found
  rwa [same, branched.step_eq]

/-- The work of a fan-out within the time that it is waited for. -/
theorem FannedOut.completes
    (fanned : FannedOut environment context steps history branches)
    (millis : Nat) :
    History.Completes environment (history ++ [⟨.wait millis, ()⟩])
      (Branch.works context millis branches) := by
  intro rest
  rw [List.append_assoc, History.finished, History.finishedFrom_append fanned.unwaited,
    List.nil_append, List.singleton_append, ← fanned.calls_eq, ← List.map_append]
  rfl

end

end WorkflowEngine
