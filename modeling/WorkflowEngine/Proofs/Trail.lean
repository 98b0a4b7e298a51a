import WorkflowEngine.Proofs.Run

/-!
# Replaying the trail

The attempts on the trail say all that has happened to the data of an execution.
An attempt is written before its result is stored, and nothing but the result
of a completed attempt is ever stored, so the results can be stored again from
the trail alone.
-/

namespace WorkflowEngine

namespace Workflow

/-- Stores the result of an attempt on the trail in a context, if it completed
and was not that of a whole fan-out. -/
def reapply (workflow : Workflow) (context : Context) (record : StepRecord) : Context :=
  if record.status = .completed ∧ record.stepType ≠ .parallel then
    match workflow.step? record.stepId with
    | some step => step.applyOutput record.output context
    | none => context
  else context

/-- Stores the results of a trail in a context, in their order. -/
def replay (workflow : Workflow) (trail : List StepRecord) (context : Context) : Context :=
  trail.foldl workflow.reapply context

variable (workflow : Workflow)

@[simp] theorem replay_nil (context : Context) : workflow.replay [] context = context := rfl

@[simp] theorem replay_singleton (record : StepRecord) (context : Context) :
    workflow.replay [record] context = workflow.reapply context record := rfl

/-- A trail is replayed part by part. -/
theorem replay_append (first rest : List StepRecord) (context : Context) :
    workflow.replay (first ++ rest) context =
      workflow.replay rest (workflow.replay first context) :=
  List.foldl_append

/-- Attempts that did not complete change nothing. -/
theorem replay_eq_self
    {trail : List StepRecord}
    (incomplete : ∀ record ∈ trail, record.status ≠ .completed)
    (context : Context) :
    workflow.replay trail context = context := by
  induction trail with
  | nil => rfl
  | cons record rest inductionHypothesis =>
    rw [List.forall_mem_cons] at incomplete
    have unchanged : workflow.reapply context record = context :=
      if_neg fun completed => incomplete.1 completed.1
    calc
      workflow.replay (record :: rest) context
          = workflow.replay rest (workflow.reapply context record) := rfl
      _ = workflow.replay rest context := by rw [unchanged]
      _ = context := inductionHypothesis incomplete.2

end Workflow

namespace Execution

section

variable (execution : Execution) (step : Step) (outcome : Outcome)

theorem context_route (target : String) :
    (execution.route target).context = execution.context := by
  unfold route
  split
  · split <;> rfl
  · rfl

/-- A success stores the result of a step; the sub-steps of a parallel step have
stored their own. -/
theorem context_succeed :
    (execution.succeed step outcome).1.context =
      if step.type = .parallel then execution.context
      else step.applyOutput outcome.result.data execution.context := by
  unfold succeed
  dsimp only
  split
  · rfl
  · split
    · exact context_route _ _
    · rfl

/-- Only a branch that succeeded changes the data. -/
theorem context_settleBranch :
    (execution.settleBranch step outcome).context =
      if outcome.succeeded then step.applyOutput outcome.result.data execution.context
      else execution.context := by
  unfold settleBranch
  split <;> rfl

end

/-! ## Attempts -/

/-- The attempts of a history account for what has become of a context. -/
def Logged (workflow : Workflow) (before : Execution) (history : History) (after : Execution) :
    Prop :=
  after.context = workflow.replay history.attempts before.context

section

variable
  {workflow : Workflow}
  {before middle after : Execution}
  {history first rest : History}

/-- Where no attempt is written the data have to stay. -/
theorem Logged.of_silent
    (same : after.context = before.context)
    (silent : history.attempts = []) :
    Logged workflow before history after := by
  unfold Logged
  rw [same, silent, Workflow.replay_nil]

/-- What is logged on the way is logged altogether. -/
theorem Logged.trans
    (begun : Logged workflow before first middle)
    (continued : Logged workflow middle rest after) :
    Logged workflow before (first ++ rest) after := by
  unfold Logged at *
  rw [History.attempts_append, Workflow.replay_append, ← begun, continued]

/-- A request that writes no attempt makes no difference. -/
theorem Logged.cons
    {exchange : Exchange}
    (logged : Logged workflow before history after)
    (silent : exchange.request.attempt? = none) :
    Logged workflow before (exchange :: history) after := by
  unfold Logged at *
  rw [logged, History.attempts_cons, silent]
  rfl

/-- Nothing but the data has to be accounted for. -/
theorem Logged.of_context_eq
    {other : Execution}
    (logged : Logged workflow before history after)
    (same : other.context = after.context) :
    Logged workflow before history other :=
  same.trans logged

/-- Between visits the data stay as they are. -/
theorem Kept.logged (kept : Kept before history after) : Logged workflow before history after :=
  .of_silent kept.context kept.attempts_eq_nil

variable
  {step : Step}
  {input : Object}
  {startedAt : Timestamp}
  {number : Nat}
  {outcome : Outcome}

/-- A failed attempt changes nothing, also when it is read from the trail. -/
theorem Written.logged_of_failed
    (written : Written step input startedAt number outcome before history after)
    (failure : outcome.succeeded = false) :
    Logged workflow before history after := by
  obtain ⟨completedAt, usage, attempts⟩ := written.attempts
  unfold Logged
  rw [written.context_eq, attempts, workflow.replay_eq_self]
  intro record member
  rw [List.mem_singleton.mp member]
  simp [attemptRecord, failure]

/-- The trail has the result of a successful attempt. -/
theorem Written.replay_eq_applyOutput
    (written : Written step input startedAt number outcome before history middle)
    (success : outcome.succeeded = true)
    (valid : workflow.isValid = true)
    (member : step ∈ workflow.steps)
    (single : step.type ≠ .parallel) :
    workflow.replay history.attempts before.context =
      step.applyOutput outcome.result.data middle.context := by
  obtain ⟨completedAt, usage, attempts⟩ := written.attempts
  rw [attempts, Workflow.replay_singleton, written.context_eq]
  unfold Workflow.reapply
  rw [if_pos ⟨by simp [attemptRecord, success], single⟩]
  simp only [attemptRecord, Workflow.step?_eq_some_of_mem valid member]

/-- The result of a fan-out is not stored, neither at once nor from the trail. -/
theorem Written.replay_eq_self
    (written : Written step input startedAt number outcome before history middle)
    (parallel : step.type = .parallel) :
    workflow.replay history.attempts before.context = middle.context := by
  obtain ⟨completedAt, usage, attempts⟩ := written.attempts
  rw [attempts, Workflow.replay_singleton, written.context_eq]
  exact if_neg fun completed => completed.2 parallel

/-- The result of a success is on the trail before it is stored in the data. -/
theorem Written.logged_succeed
    (written : Written step input startedAt number outcome before history middle)
    (success : outcome.succeeded = true)
    (valid : workflow.isValid = true)
    (member : step ∈ workflow.steps) :
    Logged workflow before history (middle.succeed step outcome).1 := by
  unfold Logged
  rw [context_succeed]
  split
  next parallel => rw [written.replay_eq_self parallel]
  next single => rw [written.replay_eq_applyOutput success valid member single]

/-- So is the result of a branch. -/
theorem Written.logged_settleBranch
    (written : Written step input startedAt number outcome before history middle)
    (valid : workflow.isValid = true)
    (member : step ∈ workflow.steps)
    (single : outcome.succeeded = true → step.type ≠ .parallel) :
    Logged workflow before history (middle.settleBranch step outcome) := by
  cases success : outcome.succeeded with
  | false =>
    refine (written.logged_of_failed success).of_context_eq ?_
    rw [context_settleBranch, success, if_neg Bool.false_ne_true]
  | true =>
    unfold Logged
    rw [context_settleBranch, if_pos success,
      written.replay_eq_applyOutput success valid member (single success)]

/-- Attempts that failed leave the data alone. -/
theorem WrittenAll.logged_of_failed
    {attempts : List Attempt}
    (written : WrittenAll step input attempts before history after)
    (failures : ∀ attempt ∈ attempts, attempt.outcome.succeeded = false) :
    Logged workflow before history after := by
  induction written with
  | nil => exact .of_silent rfl rfl
  | cons written _ inductionHypothesis =>
    rw [List.forall_mem_cons] at failures
    have logged : Logged workflow _ _ _ := written.logged_of_failed failures.1
    exact logged.trans (inductionHypothesis failures.2)

end

/-! ## Visits -/

section

variable
  {workflow : Workflow}
  {before after : Execution}
  {step : Step}
  {input : Object}
  {history : History}
  {result : Execution × Flow}

/-- A branch may store its result, because no handler takes a parallel step that
is listed by another one. -/
theorem single_of_branched
    {environment : Environment}
    {context : Context}
    {listed : Step}
    {startedAt : Timestamp}
    {outcome : Outcome}
    (unhandled : environment.handled.lookup .parallel = none)
    (branched : Branched environment context listed history
      (.ran step input startedAt outcome))
    (success : outcome.succeeded = true) :
    step.type ≠ .parallel := by
  intro parallel
  rw [← parallel] at unhandled
  have unavailable := Dispatch.ofStep_unhandled unhandled context input
  cases branched with
  | unevaluated => cases success
  | unresolved => cases success
  | settled _ _ _ dispatched =>
    rw [unavailable] at dispatched
    cases dispatched
    cases success
  | called _ _ _ dispatched =>
    rw [unavailable] at dispatched
    cases dispatched

/-- The branches of a fan-out are accounted for in the order in which they are settled. -/
theorem Settled.logged
    {branches : List Branch}
    {settlement final : Settlement}
    (settled : Settled branches settlement before history after final)
    (valid : workflow.isValid = true)
    (members : ∀ branch ∈ branches, branch.step ∈ workflow.steps)
    (single : ∀ step input startedAt outcome, .ran step input startedAt outcome ∈ branches →
      outcome.succeeded = true → step.type ≠ .parallel) :
    Logged workflow before history after := by
  induction settled with
  | nil => exact .of_silent rfl rfl
  | skipped _ inductionHypothesis =>
    rw [List.forall_mem_cons] at members
    exact inductionHypothesis members.2 fun step input startedAt outcome member =>
      single step input startedAt outcome (List.mem_cons_of_mem _ member)
  | ran written _ inductionHypothesis =>
    rw [List.forall_mem_cons] at members
    have logged := written.logged_settleBranch valid members.1
      (single _ _ _ _ List.mem_cons_self)
    refine logged.trans (inductionHypothesis members.2 ?_)
    exact fun step input startedAt outcome member =>
      single step input startedAt outcome (List.mem_cons_of_mem _ member)

/-- Whatever a parallel step runs is on the schedule. -/
theorem mem_steps_of_branched
    {environment : Environment}
    {context : Context}
    {schedule : Schedule}
    {branches : List Branch}
    (fanned : FannedOut environment context (schedule.branches step) history branches) :
    ∀ branch ∈ branches, branch.step ∈ schedule.steps := by
  intro branch member
  obtain ⟨listed, found, part, branched⟩ := fanned.exists_branched branch member
  rw [branched.step_eq]
  exact Schedule.mem_steps_of_mem_branches found

/-- A first attempt is accounted for, branches included. -/
theorem Tried.logged
    {outcome : Option Outcome}
    (tried : Tried step input before history after outcome)
    (valid : workflow.isValid = true)
    (members : ∀ step ∈ before.schedule.steps, step ∈ workflow.steps)
    (unhandled : before.environment.handled.lookup .parallel = none) :
    Logged workflow before history after := by
  cases tried with
  | attempted _ attempted => exact .of_silent rfl attempted.attempts_eq_nil
  | overrun _ fanned =>
    refine .of_silent rfl ?_
    rw [History.attempts_append, fanned.attempts_eq_nil]
    rfl
  | fanned _ fanned settled =>
    have silent : Logged workflow before _ before := .of_silent rfl fanned.attempts_eq_nil
    refine silent.trans ((settled.logged valid ?_ ?_).cons rfl)
    · exact fun branch member => members _ (mem_steps_of_branched fanned branch member)
    · intro step input startedAt outcome member
      obtain ⟨listed, _, part, branched⟩ := fanned.exists_branched _ member
      exact single_of_branched unhandled branched

section

variable
  {first : Outcome}
  {clock : Span}
  {calls writes : History}
  {retried : Retried}

/-- Further attempts change nothing until they are written. -/
theorem TriedAgain.logged_calls
    (again : TriedAgain step input first before clock calls writes retried after) :
    Logged workflow before (⟨.clock, clock⟩ :: calls) before :=
  .cons (.of_silent rfl again.retries.attempts_eq_nil) rfl

/-- Retries of which none succeeds store nothing. -/
theorem TriedAgain.logged_of_failed
    (again : TriedAgain step input first before clock calls writes retried after)
    (failure : ∀ outcome ∈ retried.outcome, outcome.succeeded = false) :
    Logged workflow before (⟨.clock, clock⟩ :: calls ++ writes) after := by
  rcases again.retries.attempts_cases with ⟨failures, -⟩ | ⟨_, last, _, _, success, closed⟩
  · exact again.logged_calls.trans (again.written.logged_of_failed failures)
  · rw [failure last.outcome closed] at success
    cases success

/-- Retries are written in one go, and the result of the last one is stored
behind them. -/
theorem TriedAgain.logged_succeed
    {outcome : Outcome}
    (again : TriedAgain step input first before clock calls writes retried after)
    (closed : retried.outcome = some outcome)
    (success : outcome.succeeded = true)
    (valid : workflow.isValid = true)
    (member : step ∈ workflow.steps) :
    Logged workflow before (⟨.clock, clock⟩ :: calls ++ writes) (after.succeed step outcome).1 := by
  rcases again.retries.attempts_cases with ⟨-, fails⟩ | ⟨failures, last, attempts, failed, -, same⟩
  · rw [fails outcome closed] at success
    cases success
  · rw [closed] at same
    cases same
    -- The retries before the last one have failed and store nothing.
    have written := again.written
    rw [attempts] at written
    obtain ⟨middle, opening, closing, rfl, early, late⟩ := written.of_append
    have failing : Logged workflow before opening middle := early.logged_of_failed failed
    cases late with
    | cons written others =>
      cases others
      rw [List.append_nil]
      have stored := written.logged_succeed success valid member
      exact again.logged_calls.trans (failing.trans stored)

end

/-- Further attempts are accounted for, of which the last one alone may succeed. -/
theorem Repeated.logged
    {first : Outcome}
    (repeated : Repeated step input first before history result)
    (valid : workflow.isValid = true)
    (member : step ∈ workflow.steps) :
    Logged workflow before history result.1 := by
  cases repeated with
  | late => exact .of_silent rfl rfl
  | cut again unfinished =>
    have logged : Logged workflow before _ _ := again.logged_of_failed (by simp [unfinished])
    exact logged.of_context_eq rfl
  | failed again closed failure =>
    have logged : Logged workflow before _ _ :=
      again.logged_of_failed (by simpa [closed] using failure)
    exact logged.of_context_eq rfl
  | succeeded again closed success => exact again.logged_succeed closed success valid member

/-- However a failure is handled, the trail accounts for it. -/
theorem Rejected.logged
    {outcome : Outcome}
    {condition : Option ConditionError}
    (rejected : Rejected step input outcome condition before history result)
    (valid : workflow.isValid = true)
    (member : step ∈ workflow.steps) :
    Logged workflow before history result.1 := by
  cases rejected with
  | repeated _ _ repeated => exact repeated.logged valid member
  | aborted => exact .of_silent rfl rfl
  | unevaluated => exact .of_silent rfl rfl
  | advanced => exact .of_silent rfl rfl
  | skipped => exact .of_silent rfl rfl
  | jumped => exact .of_silent rfl rfl

/-- A step that is performed is accounted for. -/
theorem Performed.logged
    (performed : Performed step input before history result)
    (valid : workflow.isValid = true)
    (members : ∀ step ∈ before.schedule.steps, step ∈ workflow.steps)
    (member : step ∈ workflow.steps)
    (unhandled : before.environment.handled.lookup .parallel = none) :
    Logged workflow before history result.1 := by
  cases performed with
  | late => exact .of_silent rfl rfl
  | interrupted tried written =>
    have logged := tried.logged valid members unhandled
    exact .trans (.cons (.cons logged rfl) rfl) (written.logged_of_failed rfl)
  | succeeded tried written success =>
    have logged := tried.logged valid members unhandled
    exact .trans (.cons (.cons logged rfl) rfl) (written.logged_succeed success valid member)
  | failed tried written failure rejected =>
    have logged := (tried.logged valid members unhandled).trans (written.logged_of_failed failure)
    exact .trans (.cons (.cons logged rfl) rfl) (rejected.logged valid member)

/-- A visit is accounted for, whether the conditions hold or not. -/
theorem Visited.logged
    (visited : Visited step before history result)
    (valid : workflow.isValid = true)
    (members : ∀ step ∈ before.schedule.steps, step ∈ workflow.steps)
    (member : step ∈ workflow.steps)
    (unhandled : before.environment.handled.lookup .parallel = none) :
    Logged workflow before history result.1 := by
  cases visited with
  | skipped => exact .of_silent rfl rfl
  | unevaluated _ written rejected =>
    have logged : Logged workflow before _ _ := written.logged_of_failed rfl
    exact .trans (.cons logged rfl) (rejected.logged valid member)
  | unresolved _ _ written rejected =>
    have logged : Logged workflow before _ _ := written.logged_of_failed rfl
    exact .trans (.cons logged rfl) (rejected.logged valid member)
  | performed _ _ performed => exact performed.logged valid members member unhandled

end

/-! ## Runs -/

section

variable
  {environment : Environment}
  {workflow : Workflow}
  {before : Execution}
  {history : History}
  {result : Execution × Flow}

/-- A turn stores nothing that is not on the trail. -/
theorem Acted.logged
    (acted : Acted before history result)
    (valid : workflow.isValid = true)
    (unhandled : environment.handled.lookup .parallel = none)
    (follows : Follows environment workflow before) :
    Logged workflow before history result.1 := by
  cases acted with
  | idle kept => exact kept.logged
  | exhausted kept => exact kept.logged
  | late kept => exact kept.logged
  | visited opened current visited _ synced =>
    have still := follows.of_continues opened.continues
    rw [← still.environment_eq] at unhandled
    have member := follows.mem_steps (Schedule.mem_steps_of_current? current)
    have logged := visited.logged valid (fun _ => still.mem_steps) member unhandled
    exact (opened.logged.trans logged).trans synced.logged

end

namespace Run

variable
  {environment : Environment}
  {workflow : Workflow}
  {call : Call}
  {history : History}

/-- Between any two turns the context is what the trail makes of the first
one. -/
theorem replayed
    {execution : Execution}
    (run : Run environment workflow call history (.done (.turn execution)))
    (valid : workflow.isValid = true)
    (unhandled : environment.handled.lookup .parallel = none) :
    execution.context =
      workflow.replay history.attempts (contextFor environment workflow call) := by
  apply run.invariant
  · intro history execution started
    rw [started.attempts_eq_nil]
    cases started with
    | admitted _ _ _ _ _ kept => exact kept.context
  · intro past history execution after begun same acted
    rw [History.attempts_append, Workflow.replay_append, ← same]
    exact (acted_of_ends acted).logged valid unhandled begun.follows

/-- However a run ends, storing the results of its completed attempts again, in
the order of the trail, gives the last context of its execution, and with it the
data that is returned.  A turn without a completed attempt leaves the context as
it was. -/
theorem context_eq_replay
    {record : ExecutionRecord}
    (run : Run environment workflow call history (.done (.ended record)))
    (valid : workflow.isValid = true)
    (unhandled : environment.handled.lookup .parallel = none)
    (accepted : ∀ attempt error, ⟨.append attempt, .error error⟩ ∉ history) :
    (∃ past execution acting last ending closing,
      history = past ++ acting ++ closing ∧
      Run environment workflow call past (.done (.turn execution)) ∧
      execution.activity.Ends acting (last, .finish ending) ∧
      (last.finalize ending).Ends closing record ∧
      last.context = workflow.replay history.trail (contextFor environment workflow call) ∧
      record.output = last.context.executionData) ∧
    ∀ past acting rest execution last flow,
      history = past ++ acting ++ rest →
      Run environment workflow call past (.done (.turn execution)) →
      execution.activity.Ends acting (last, flow) →
      (∀ attempt ∈ acting.trail, attempt.status ≠ .completed) →
      last.context = execution.context := by
  constructor
  · obtain ⟨past, execution, acting, last, ending, closing, rfl, begun, acted, ends⟩ :=
      run.last_turn
    refine ⟨past, execution, acting, last, ending, closing, rfl, begun, acted, ends, ?_, ?_⟩
    · have logged : Logged workflow execution acting last :=
        (acted_of_ends acted).logged valid unhandled begun.follows
      rw [History.trail_eq_attempts accepted, History.attempts_append,
        (closed_of_ends ends).attempts_eq_nil, List.append_nil, History.attempts_append,
        Workflow.replay_append, ← begun.replayed valid unhandled]
      exact logged
    · exact (closed_of_ends ends).output
  · rintro past acting rest execution last flow rfl begun acted incomplete
    have kept : ∀ attempt error, ⟨.append attempt, .error error⟩ ∉ acting :=
      fun attempt error member => accepted attempt error (by simp [member])
    rw [History.trail_eq_attempts kept] at incomplete
    have logged : Logged workflow execution acting last :=
      (acted_of_ends acted).logged valid unhandled begun.follows
    unfold Logged at logged
    rwa [workflow.replay_eq_self incomplete] at logged

end Run

/-- A workflow that fans out and then tries a step again. -/
def spread : Workflow where
  id := "spread"
  steps :=
    [{ id := "fan", type := .parallel
       config := .object [("stepIds", .array [.text "branch"])] },
     { id := "branch", type := .custom "call", order := 1 },
     { id := "last", type := .custom "call", order := 2
       failure := { action := some .retry, maxRetries := some 1, retryDelayMs := some 0 } }]

/-- The replies to its handlers; the first attempt at the last step fails. -/
def spreadReplies : List Reply :=
  [⟨.zero, .ok (StepResult.succeed.withOutput "branch" (.ofNat 1))⟩,
   ⟨.zero, .error (.executionFailed "down")⟩,
   ⟨.zero, .ok (StepResult.succeed.withOutput "last" (.ofNat 2))⟩]

/-- The branch stores its result, and so does the retry. -/
theorem context_eq_replay_of_spread :
    ∃ history record,
      played { handled := [(.custom "call", true)] } spread { executionId := "run" } 5
        spreadReplies = (history, .ended record) ∧
      history.trail.map StepRecord.stepId = ["branch", "fan", "last", "last"] ∧
      history.trail.map StepRecord.status = [.completed, .completed, .failed, .completed] ∧
      record.output =
        (spread.replay history.trail
          (contextFor { handled := [(.custom "call", true)] } spread
            { executionId := "run" })).executionData ∧
      record.output = [("branch", .ofNat 1), ("last", .ofNat 2)] := by
  have run := run_played { handled := [(.custom "call", true)] } spread { executionId := "run" } 5
    spreadReplies
  obtain ⟨record, ended, stored⟩ : ∃ record,
      (played { handled := [(.custom "call", true)] } spread { executionId := "run" } 5
        spreadReplies).2 = .ended record ∧
      record.output = [("branch", .ofNat 1), ("last", .ofNat 2)] := ⟨_, rfl, rfl⟩
  rw [ended] at run
  obtain ⟨⟨_, _, _, last, _, _, _, _, _, _, same, output⟩, -⟩ :=
    run.context_eq_replay (by rfl) rfl (accepted_playTurns _ _ _)
  rw [same] at output
  exact ⟨_, record, Prod.ext rfl ended, rfl, rfl, output, stored⟩

end Execution
end WorkflowEngine
