import WorkflowEngine.Proofs.Steps
import WorkflowEngine.Proofs.ExecutionTurn

/-!
# Runs

A run starts an execution and lets it take turns.  It may stop anywhere, also
in the middle of a turn, and every run can be carried on to the end of its
turn.  Whatever is to be known of runs is shown for the start, and for one turn
after another.
-/

namespace WorkflowEngine
namespace Execution

/-- The execution that a start leads to, before its record is stored as
running. -/
def opening
    (environment : Environment)
    (workflow : Workflow)
    (call : Call)
    (listener : Listener)
    (clock : Span)
    (now : Timestamp) : Execution where
  environment := environment
  workflow := workflow
  schedule := .ofWorkflow workflow
  context := contextFor environment workflow call
  record :=
    { ExecutionRecord.create (contextFor environment workflow call).tenantId call.executionId
        workflow.id workflow.steps.length now with
      status := .running }
  listener := listener
  startedAt := clock

section

variable (environment : Environment) (workflow : Workflow) (call : Call)

/-- The record that is stored in a start. -/
def created (now : Timestamp) : ExecutionRecord :=
  .create (contextFor environment workflow call).tenantId call.executionId workflow.id
    workflow.steps.length now

/-- The exchange in which a start asks for admission. -/
def admission (answer : Except EngineError Listener) : Exchange where
  request := .register call.executionId workflow.id (contextFor environment workflow call).tenantId
    (environment.concurrencyLimit workflow)
  answer := answer

/-- How a start goes, exchange by exchange. -/
inductive Starts : History → Next → Prop
  | rejected (clock : Span) (error : EngineError) :
      Starts [⟨.clock, clock⟩, admission environment workflow call (.error error)]
        (.refused error)
  /-- The store has not taken the record. -/
  | unstored (clock : Span) (listener : Listener) (now : Timestamp) (error : StoreError) :
      Starts
        [⟨.clock, clock⟩, admission environment workflow call (.ok listener), ⟨.now, now⟩,
          ⟨.create (created environment workflow call now), .error error⟩,
          ⟨.unregister call.executionId, ()⟩]
        (.refused (.store error))
  | admitted
      {clock : Span}
      {listener : Listener}
      {now : Timestamp}
      {synced : History}
      {execution : Execution}
      (syncing : (opening environment workflow call listener clock now).sync.Ends synced
        execution) :
      Starts
        ([⟨.clock, clock⟩, admission environment workflow call (.ok listener), ⟨.now, now⟩,
          ⟨.create (created environment workflow call now), .ok ()⟩,
          ⟨.setStatus call.executionId .running, ()⟩] ++ synced)
        (.turn execution)

/-- What shows of a start. -/
inductive Started : History → Next → Prop
  | refused
      {history : History}
      {error : EngineError}
      (unattempted : history.attempts = [])
      (uncalled : history.invocations = [])
      (records : ∀ record ∈ history.records,
        record.accounted = 0 ∧ record.totalSteps = workflow.steps.length)
      (sorted : history.records.length ≤ 1) :
      Started history (.refused error)
  | admitted
      {clock : Span}
      {listener : Listener}
      {now : Timestamp}
      {begun synced : History}
      {execution : Execution}
      {record : ExecutionRecord}
      (unattempted : begun.attempts = [])
      (uncalled : begun.invocations = [])
      (created : begun.records = [record])
      (accounted : record.accounted = 0)
      (totalSteps : record.totalSteps = workflow.steps.length)
      (kept : Kept (opening environment workflow call listener clock now) synced execution) :
      Started (begun ++ synced) (.turn execution)

/-- The requests of an execution from its start to some point. -/
inductive Run : History → Program Next → Prop
  | start
      {history : History}
      {now : Program Next}
      (begun : (start environment workflow call).Reaches history now) :
      Run history now
  | turn
      {past history : History}
      {execution : Execution}
      {now : Program Next}
      (run : Run past (.done (.turn execution)))
      (turned : execution.turn.Reaches history now) :
      Run (past ++ history) now

variable {environment workflow call}

theorem starts_of_ends
    {history : History}
    {next : Next}
    (ends : (start environment workflow call).Ends history next) :
    Starts environment workflow call history next := by
  obtain ⟨clock, _, rfl, timed⟩ := Program.Ends.of_request ends
  obtain ⟨registered, _, rfl, admission⟩ := timed.of_request
  cases registered with
  | error error =>
    obtain ⟨rfl, rfl⟩ := admission.of_done
    exact .rejected clock error
  | ok listener =>
    obtain ⟨now, _, rfl, dated⟩ := Program.Ends.of_request admission
    obtain ⟨created, _, rfl, creation⟩ := dated.of_request
    cases created with
    | error error =>
      obtain ⟨⟨⟩, _, rfl, left⟩ := Program.Ends.of_request creation
      obtain ⟨rfl, rfl⟩ := left.of_done
      exact .unstored clock listener now error
    | ok stored =>
      obtain ⟨⟨⟩, _, rfl, running⟩ := Program.Ends.of_request creation
      obtain ⟨execution, synced, _, rfl, syncing, finished⟩ := running.of_bind
      obtain ⟨rfl, rfl⟩ := finished.of_done
      rw [List.append_nil]
      exact .admitted syncing

/-- Where a start is admitted, the first record has been stored since the opening, and
nothing else has happened. -/
theorem ends_start
    {history : History}
    {next : Next}
    (ends : (start environment workflow call).Ends history next) :
    Started environment workflow call history next ∧
      ∀ execution, next = .turn execution → ∃ listener clock now synced,
        Steady (opening environment workflow call listener clock now) synced execution := by
  cases starts_of_ends ends with
  | rejected =>
    refine ⟨.refused rfl rfl (by simp [admission, Request.record?])
      (by simp [admission, Request.record?]), ?_⟩
    rintro _ ⟨⟩
  | unstored =>
    refine ⟨.refused rfl rfl ?_ (by simp [admission, Request.record?]), ?_⟩
    · intro record member
      obtain rfl : record = created environment workflow call _ := by
        simpa [admission, Request.record?] using member
      exact ⟨rfl, rfl⟩
    · rintro _ ⟨⟩
  | @admitted clock listener now synced execution syncing =>
    have steady := steady_of_ends_sync syncing
    refine ⟨@Started.admitted _ _ _ clock listener now [_, _, _, _, _] synced execution _
      rfl rfl rfl rfl rfl steady.toKept, ?_⟩
    rintro _ ⟨⟩
    exact ⟨listener, clock, now, synced, steady⟩

theorem started_of_ends
    {history : History}
    {next : Next}
    (ends : (start environment workflow call).Ends history next) :
    Started environment workflow call history next :=
  (ends_start ends).1

theorem Started.attempts_eq_nil
    {history : History}
    {next : Next}
    (started : Started environment workflow call history next) :
    history.attempts = [] := by
  cases started with
  | refused unattempted => exact unattempted
  | admitted unattempted _ _ _ _ kept => simp [unattempted, kept.attempts_eq_nil]

theorem Started.invocations_eq_nil
    {history : History}
    {next : Next}
    (started : Started environment workflow call history next) :
    history.invocations = [] := by
  cases started with
  | refused _ uncalled => exact uncalled
  | admitted _ uncalled _ _ _ kept => simp [uncalled, kept.invocations_eq_nil]

/-- An execution follows a workflow in an environment. -/
structure Follows (environment : Environment) (workflow : Workflow) (execution : Execution) :
    Prop where
  environment_eq : execution.environment = environment
  workflow_eq : execution.workflow = workflow
  steps : execution.schedule.steps = workflow.orderedSteps

theorem Follows.of_continues
    {before after : Execution}
    (follows : Follows environment workflow before)
    (continues : before.Continues after) :
    Follows environment workflow after where
  environment_eq := continues.environment.trans follows.environment_eq
  workflow_eq := continues.workflow.trans follows.workflow_eq
  steps := continues.schedule.steps.trans follows.steps

/-- The steps that an execution visits are those of its workflow. -/
theorem Follows.mem_steps
    {execution : Execution}
    {step : Step}
    (follows : Follows environment workflow execution)
    (member : step ∈ execution.schedule.steps) :
    step ∈ workflow.steps := by
  rw [follows.steps] at member
  exact workflow.orderedSteps_perm.mem_iff.mp member

namespace Run

variable {history rest : History} {now later : Program Next}

/-- A run may be carried on. -/
theorem extend
    (run : Run environment workflow call history now)
    (reaches : now.Reaches rest later) :
    Run environment workflow call (history ++ rest) later := by
  cases run with
  | start begun => exact .start (begun.trans reaches)
  | turn past turned =>
    rw [List.append_assoc]
    exact .turn past (turned.trans reaches)

/-- A run may be carried on to the end of its turn. -/
theorem exists_ends (run : Run environment workflow call history now) :
    ∃ rest next, Run environment workflow call (history ++ rest) (.done next) := by
  obtain ⟨rest, next, ends⟩ := (Program.Reaches.here now).exists_ends
  exact ⟨rest, next, run.extend ends⟩

/-- What holds after the start and is kept by every turn holds between any two
turns. -/
theorem invariant_of_ends
    {holds : History → Execution → Prop}
    (begins : ∀ {history execution},
      (Execution.start environment workflow call).Ends history (.turn execution) →
        holds history execution)
    (goesOn : ∀ {past history execution after},
      Run environment workflow call past (.done (.turn execution)) → holds past execution →
        execution.activity.Ends history (after, .goOn) → holds (past ++ history) after)
    {history : History}
    {execution : Execution}
    (run : Run environment workflow call history (.done (.turn execution))) :
    holds history execution := by
  generalize reached : Program.done (Next.turn execution) = now at run
  induction run generalizing execution with
  | start begun =>
    subst reached
    exact begins begun
  | turn past turned inductionHypothesis =>
    subst reached
    rcases ends_turn turned with ⟨last, acted, next⟩ | ⟨_, _, _, _, _, _, _, _, next⟩
    · cases next
      exact goesOn past (inductionHypothesis rfl) acted
    · cases next

theorem invariant
    {holds : History → Execution → Prop}
    (begins : ∀ {history execution},
      Started environment workflow call history (.turn execution) → holds history execution)
    (goesOn : ∀ {past history execution after},
      Run environment workflow call past (.done (.turn execution)) → holds past execution →
        execution.activity.Ends history (after, .goOn) → holds (past ++ history) after)
    {history : History}
    {execution : Execution}
    (run : Run environment workflow call history (.done (.turn execution))) :
    holds history execution :=
  run.invariant_of_ends (fun begun => begins (started_of_ends begun)) goesOn

/-- Between any two turns an execution still follows its workflow. -/
theorem follows
    {history : History}
    {execution : Execution}
    (run : Run environment workflow call history (.done (.turn execution))) :
    Follows environment workflow execution := by
  apply run.invariant
  · intro history execution started
    cases started with
    | admitted _ _ _ _ _ kept =>
      exact ⟨kept.environment, kept.workflow, kept.continues.schedule.steps⟩
  · intro past history execution after _ follows acted
    exact follows.of_continues (acted_of_ends acted).evolves.continues

/-- Whatever an execution has come to, it has evolved from its opening. -/
theorem evolves
    {history : History}
    {execution : Execution}
    (run : Run environment workflow call history (.done (.turn execution))) :
    ∃ listener clock now,
      (opening environment workflow call listener clock now).Evolves execution := by
  apply run.invariant
  · intro history execution started
    cases started with
    | admitted _ _ _ _ _ kept => exact ⟨_, _, _, kept.evolves⟩
  · rintro past history execution after _ ⟨listener, clock, now, evolves⟩ acted
    exact ⟨listener, clock, now, evolves.trans (acted_of_ends acted).evolves⟩

/-- A run that was refused never took a turn. -/
theorem ends_of_refused
    {history : History}
    {error : EngineError}
    (run : Run environment workflow call history (.done (.refused error))) :
    (Execution.start environment workflow call).Ends history (.refused error) := by
  generalize reached : Program.done (Next.refused error) = now at run
  cases run with
  | start begun =>
    subst reached
    exact begun
  | turn past turned =>
    subst reached
    rcases ends_turn turned with ⟨_, _, next⟩ | ⟨_, _, _, _, _, _, _, _, next⟩ <;> cases next

/-- A run that came to an end did so in its last turn. -/
theorem last_turn
    {history : History}
    {record : ExecutionRecord}
    (run : Run environment workflow call history (.done (.ended record))) :
    ∃ past execution acting last ending closing,
      history = past ++ acting ++ closing ∧
      Run environment workflow call past (.done (.turn execution)) ∧
      execution.activity.Ends acting (last, .finish ending) ∧
      (last.finalize ending).Ends closing record := by
  generalize reached : Program.done (Next.ended record) = now at run
  cases run with
  | start begun =>
    subst reached
    cases started_of_ends begun
  | turn past turned =>
    subst reached
    rcases ends_turn turned with ⟨_, _, next⟩ | ⟨_, _, _, _, _, rfl, acted, closed, next⟩
    · cases next
    · cases next
      exact ⟨_, _, _, _, _, _, (List.append_assoc _ _ _).symm, past, acted, closed⟩

/-- Every call of a handler falls into a turn of the run.  If that turn ends the execution,
no call follows it. -/
theorem split_at_call
    {history : History}
    {next : Next}
    {earlier later : List (Invocation × Reply)}
    {called : Invocation × Reply}
    (run : Run environment workflow call history (.done next))
    (parts : history.invocations = earlier ++ called :: later) :
    ∃ past execution acting last flow begun others after,
      history = past ++ acting ++ after ∧
      Run environment workflow call past (.done (.turn execution)) ∧
      execution.activity.Ends acting (last, flow) ∧
      acting.invocations = begun ++ called :: others ∧
      later = others ++ History.invocations after ∧
      ∀ ending, flow = .finish ending → History.invocations after = [] ∧
        ∃ record, next = .ended record ∧ record.status = ending.status := by
  generalize reached : Program.done next = now at run
  induction run generalizing earlier later next with
  | start begun =>
    subst reached
    simp [(started_of_ends begun).invocations_eq_nil] at parts
  | @turn past history execution now run turned inductionHypothesis =>
    subst reached
    rw [History.invocations_append] at parts
    rcases History.split_append parts with ⟨middle, early, rfl⟩ | ⟨middle, -, late⟩
    · obtain ⟨past, execution, acting, last, flow, begun, others, after, rfl, before, acted,
        calls, rfl, ended⟩ := inductionHypothesis early rfl
      refine ⟨past, execution, acting, last, flow, begun, others, after ++ history,
        List.append_assoc _ _ _, before, acted, calls, ?_, fun ending finished => ?_⟩
      · rw [History.invocations_append, List.append_assoc]
      obtain ⟨-, record, impossible, -⟩ := ended ending finished
      cases impossible
    · rcases ends_turn turned with
        ⟨last, acted, rfl⟩ | ⟨last, ending, acting, closing, record, rfl, acted, ends, rfl⟩
      · exact ⟨past, execution, history, last, .goOn, middle, later, [],
          (List.append_nil _).symm, run, acted, late, (List.append_nil _).symm,
          fun ending impossible => by cases impossible⟩
      · have closed := closed_of_ends ends
        have none := closed.invocations_eq_nil
        rw [History.invocations_append, none, List.append_nil] at late
        refine ⟨past, execution, acting, last, .finish ending, middle, later, closing,
          (List.append_assoc _ _ _).symm, run, acted, late, ?_, fun other same => ?_⟩
        · rw [none, List.append_nil]
        cases same
        exact ⟨none, record, rfl, closed.status⟩

end Run

end

/-! ## Runs in calm surroundings -/

/-- Follows a program through calm surroundings, and up to a number of turns
behind it. -/
def playTurns : Nat → List Reply → Program Next → History × Next
  | 0, replies, program => ((program.play replies).1, (program.play replies).2.1)
  | turns + 1, replies, program =>
    match program.play replies with
    | (history, .turn execution, rest) =>
      (history ++ (playTurns turns rest execution.turn).1,
        (playTurns turns rest execution.turn).2)
    | (history, next, _) => (history, next)

/-- Follows an execution from its start through calm surroundings. -/
def played
    (environment : Environment)
    (workflow : Workflow)
    (call : Call)
    (turns : Nat)
    (replies : List Reply) : History × Next :=
  playTurns turns replies (start environment workflow call)

theorem Run.playTurns
    {environment : Environment}
    {workflow : Workflow}
    {call : Call}
    {past : History}
    {program : Program Next}
    (run : Run environment workflow call past program)
    (turns : Nat)
    (replies : List Reply) :
    Run environment workflow call (past ++ (Execution.playTurns turns replies program).1)
      (.done (Execution.playTurns turns replies program).2) := by
  induction turns generalizing past replies program with
  | zero => exact run.extend (program.ends_play replies)
  | succ turns inductionHypothesis =>
    have ends := program.ends_play replies
    unfold Execution.playTurns
    split
    next history execution rest played =>
      rw [played] at ends
      have turned := Run.turn (run.extend ends) (.here execution.turn)
      rw [List.append_nil] at turned
      rw [← List.append_assoc]
      exact inductionHypothesis turned rest
    next history next rest _ played =>
      rw [played] at ends
      exact run.extend ends

theorem accepted_playTurns
    (turns : Nat)
    (replies : List Reply)
    (program : Program Next)
    (record : StepRecord)
    (error : StoreError) :
    ⟨.append record, .error error⟩ ∉ (playTurns turns replies program).1 := by
  induction turns generalizing replies program with
  | zero => exact program.accepted_play replies record error
  | succ turns inductionHypothesis =>
    have accepted := program.accepted_play replies record error
    unfold playTurns
    split
    next history execution rest played =>
      rw [played] at accepted
      rw [List.mem_append, not_or]
      exact ⟨accepted, inductionHypothesis rest execution.turn⟩
    next history next rest _ played =>
      rw [played] at accepted
      exact accepted

/-- What is played is a run. -/
theorem run_played
    (environment : Environment)
    (workflow : Workflow)
    (call : Call)
    (turns : Nat)
    (replies : List Reply) :
    Run environment workflow call (played environment workflow call turns replies).1
      (.done (played environment workflow call turns replies).2) :=
  (Run.start (.here _)).playTurns turns replies

end Execution
end WorkflowEngine
