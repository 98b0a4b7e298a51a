import WorkflowEngine.Engine.Session
import WorkflowEngine.Proofs.Run

/-!
# Executions of a session

Executions only go on by answers to their requests and by further turns,
whether the caller of an engine waits for them or they take turns in the
background.  What answers and turns keep therefore holds wherever an execution
has come to, and what an engine brings to an end is the end of a run.
-/

namespace WorkflowEngine

open Execution (Next)

namespace Execution

/-- What every answer and every new turn keeps. -/
structure Persists (holds : Program Next → Prop) : Prop where
  reaches : ∀ {program history now}, holds program → program.Reaches history now → holds now
  turn : ∀ {execution}, holds (.done (.turn execution)) → holds execution.turn

end Execution

/-- What holds of an execution, however far it has come. -/
def Progress.Satisfies (holds : Program Next → Prop) : Progress → Prop
  | .ready program => holds program
  | .waiting next => holds next
  | .listening listener next => holds (.ask (.listen listener) next)
  | .ended (.ok record) => holds (.done (.ended record))
  | .ended (.error error) => holds (.done (.refused error))
  | .broken => True

/-- What holds of an execution may be weakened. -/
theorem Progress.Satisfies.imp
    {holds weaker : Program Next → Prop}
    {progress : Progress}
    (satisfied : progress.Satisfies holds)
    (implied : ∀ program, holds program → weaker program) :
    progress.Satisfies weaker := by
  cases progress with
  | ready | waiting | listening => exact implied _ satisfied
  | ended result => cases result <;> exact implied _ satisfied
  | broken => trivial

namespace Session

variable
  {σ α : Type}
  {holds : Program Next → Prop}
  {session after : Session σ}

/-! ## Background executions -/

section

variable {job : Nat}

/-- What holds where a program stops. -/
def Stop.Satisfies (holds : Program Next → Prop) : Stop Next → Prop
  | .done next => holds (.done next)
  | .waiting _ next => holds next
  | .listening listener next => holds (.ask (.listen listener) next)
  | .broken => True

/-- What persists holds as well where a program has proceeded to. -/
theorem satisfies_proceed
    (persists : Execution.Persists holds)
    (program : Program Next)
    (world : World σ)
    (held : holds program) :
    (proceed program world).1.Satisfies holds := by
  induction program generalizing world with
  | done next => exact held
  | ask request next inductionHypothesis =>
    have answered (answer : request.Answer) : holds (next answer) :=
      persists.reaches held (.ask (.here _))
    unfold proceed
    split
    next => exact inductionHypothesis _ _ (answered _)
    next => trivial
    next => exact answered ()
    next => exact held
    next => trivial

/-- Something holds of one of the executions of a session. -/
def Upholds (holds : Program Next → Prop) (job : Nat) (session : Session σ) : Prop :=
  ∀ progress ∈ session.jobs[job]?, progress.Satisfies holds

/-- Only what becomes of the execution itself has to be shown. -/
theorem Upholds.setJob
    (upheld : session.Upholds holds job)
    (other : Nat)
    (progress : Progress)
    (satisfied : other = job → progress.Satisfies holds) :
    (session.setJob other progress).Upholds holds job := by
  intro found known
  unfold Session.setJob at known
  rw [List.getElem?_set] at known
  split at known
  next same =>
    split at known
    next =>
      cases known
      exact satisfied same
    next => cases known
  next => exact upheld found known

/-- Only the execution that goes on is set anew. -/
theorem Upholds.runJob
    (persists : Execution.Persists holds)
    (other turns : Nat)
    (program : Program Next)
    (held : other = job → holds program)
    (upheld : session.Upholds holds job) :
    (runJob other turns program session).Upholds holds job := by
  -- Nothing is asked of the program of another execution, whose turns this one ignores.
  induction turns generalizing program session with
  | zero => exact upheld.setJob other _ held
  | succ turns inductionHypothesis =>
    have stopped (same : other = job) : (proceed program session.world).1.Satisfies holds :=
      satisfies_proceed persists program session.world (held same)
    unfold Session.runJob
    dsimp only
    have upheld : Upholds holds job { session with world := (proceed program session.world).2 } :=
      upheld
    generalize (proceed program session.world).1 = stop at stopped ⊢
    cases stop with
    | done next =>
      cases next with
      | turn execution =>
        exact inductionHypothesis _ (fun same => persists.turn (stopped same)) upheld
      | ended record => exact upheld.setJob other _ stopped
      | refused error => exact upheld.setJob other _ stopped
    | waiting millis next => exact upheld.setJob other (.waiting next) stopped
    | listening listener next => exact upheld.setJob other (.listening listener next) stopped
    | broken => exact upheld.setJob other .broken stopped

/-- What persists holds after any execution was resumed. -/
theorem Upholds.resumeJob
    (persists : Execution.Persists holds)
    (upheld : session.Upholds holds job)
    (other : Nat) :
    (session.resumeJob other).Upholds holds job := by
  have satisfied {progress : Progress} (known : session.jobs[other]? = some progress)
      (same : other = job) : progress.Satisfies holds := by
    subst same
    exact upheld progress known
  unfold Session.resumeJob
  split
  next program known => exact upheld.runJob persists other _ _ (satisfied known)
  next program known => exact upheld.runJob persists other _ _ (satisfied known)
  next listener next known =>
    split
    next heard _ =>
      refine upheld.runJob persists other _ _ fun same => ?_
      exact persists.reaches (satisfied known same) (.ask (.here _))
    next => exact upheld
  next => exact upheld

/-- What persists holds when all executions have taken their turns. -/
theorem Upholds.drain
    (persists : Execution.Persists holds)
    (upheld : session.Upholds holds job)
    (steps : Nat) :
    (session.drain steps).Upholds holds job := by
  induction steps generalizing session with
  | zero => exact upheld
  | succ steps inductionHypothesis =>
    have woken : session.wakeListeners.Upholds holds job := upheld
    unfold Session.drain
    dsimp only
    split
    next => exact woken
    next first rest _ =>
      have popped : Upholds holds job { session.wakeListeners with queue := rest } := woken
      exact inductionHypothesis (popped.resumeJob persists first)

/-- What persists holds when something has happened for which a caller has waited. -/
theorem Upholds.passUntil
    {happened : Session σ → Option α}
    {steps : Nat}
    {value : α}
    (persists : Execution.Persists holds)
    (upheld : session.Upholds holds job)
    (passed : session.passUntil happened steps = some (value, after)) :
    after.Upholds holds job ∧ happened after = some value := by
  induction steps generalizing session with
  | zero => cases passed
  | succ steps inductionHypothesis =>
    have drained := upheld.drain persists turnLimit
    unfold Session.passUntil at passed
    dsimp only at passed
    split at passed
    next value happened =>
      cases passed
      exact ⟨drained, happened⟩
    next =>
      obtain ⟨next, _, passed⟩ := Option.bind_eq_some_iff.mp passed
      have advanced : Upholds holds job ((session.drain turnLimit).advanceTo next) := drained
      exact inductionHypothesis advanced passed

/-- What is kept by answers and turns holds at the end of a background
execution. -/
theorem Upholds.join
    {record : ExecutionRecord}
    (persists : Execution.Persists holds)
    (upheld : session.Upholds holds job)
    (joined : session.join job = some (.ok record, after)) :
    holds (.done (.ended record)) := by
  have ended {session : Session σ} (upheld : session.Upholds holds job)
      (known : session.result? job = some (some (.ok record))) : holds (.done (.ended record)) := by
    unfold result? at known
    split at known
    next result found =>
      cases known
      exact upheld _ found
    next => cases known
    next => cases known
  unfold Session.join at joined
  split at joined
  next result known =>
    obtain ⟨_, rfl, same⟩ := Option.map_eq_some_iff.mp joined
    cases same
    exact ended upheld known
  next =>
    split at joined
    next result middle passed =>
      cases joined
      obtain ⟨upheld, known⟩ := upheld.passUntil persists passed
      exact ended upheld known
    next => cases joined

end

/-! ## The caller's own executions -/

/-- An engine that completes a program has followed it to an end. -/
theorem ends_of_complete
    {program : Program α}
    {value : α}
    (completed : session.complete program = some (value, after)) :
    ∃ history, program.Ends history value := by
  induction program generalizing session with
  | done result =>
    cases completed
    exact ⟨[], .here _⟩
  | ask request next inductionHypothesis =>
    unfold complete at completed
    split at completed
    next answer middle _ =>
      obtain ⟨history, ends⟩ := inductionHypothesis answer completed
      exact ⟨⟨request, answer⟩ :: history, .ask ends⟩
    next => cases completed

/-- What is kept by answers and turns holds at the end of an execution for which
the caller waits. -/
theorem holds_of_executeIn
    {turns : Nat}
    {program : Program Next}
    {record : ExecutionRecord}
    (persists : Execution.Persists holds)
    (held : holds program)
    (executed : session.executeIn turns program = some (.ok record, after)) :
    holds (.done (.ended record)) := by
  induction turns generalizing program session with
  | zero => cases executed
  | succ turns inductionHypothesis =>
    unfold executeIn at executed
    split at executed
    next execution middle completed =>
      obtain ⟨history, ends⟩ := ends_of_complete completed
      exact inductionHypothesis (persists.turn (persists.reaches held ends)) executed
    next last middle completed =>
      cases executed
      obtain ⟨history, ends⟩ := ends_of_complete completed
      exact persists.reaches held ends
    next => cases executed
    next => cases executed

end Session

/-! ## Runs -/

namespace Execution

variable (environment : Environment)

/-- The stages of an execution of a workflow that comes with its request. -/
def StageOfGiven (workflow : Workflow) (call : Call) (now : Program Next) : Prop :=
  (∃ error, now = .done (.refused error)) ∨
    (workflow.isValid = true ∧ ∃ history, Run environment workflow call history now)

/-- The stages of an execution of a workflow that the engine looks up. -/
def StageOfKnown (id : String) (call : Call) (now : Program Next) : Prop :=
  now = startKnown environment id call ∨
    (∃ error, now = .done (.refused error)) ∨
    ∃ workflow history, Run environment workflow call history now

/-- The start of a valid workflow begins a run, and that of any other one is refused. -/
theorem stageOfGiven_start (workflow : Workflow) (call : Call) :
    StageOfGiven environment workflow call (startGiven environment workflow call) := by
  unfold startGiven Workflow.validated
  split
  next given accepted =>
    split at accepted
    next valid =>
      cases accepted
      exact .inr ⟨valid, [], .start (.here _)⟩
    next => cases accepted
  next error _ => exact .inl ⟨error, rfl⟩

variable {environment}

/-- To be a run persists. -/
theorem persists_run
    (workflow : Workflow)
    (call : Call) :
    Persists fun now => ∃ history, Run environment workflow call history now where
  reaches := fun ⟨past, run⟩ reaches => ⟨past ++ _, run.extend reaches⟩
  turn := fun ⟨past, run⟩ => ⟨past ++ [], .turn run (.here _)⟩

theorem persists_stageOfGiven
    (workflow : Workflow)
    (call : Call) :
    Persists (StageOfGiven environment workflow call) where
  reaches := by
    rintro program history now (⟨error, rfl⟩ | ⟨valid, run⟩) reaches
    · cases reaches
      exact .inl ⟨error, rfl⟩
    · exact .inr ⟨valid, (persists_run workflow call).reaches run reaches⟩
  turn := by
    rintro execution (⟨error, impossible⟩ | ⟨valid, run⟩)
    · cases impossible
    · exact .inr ⟨valid, (persists_run workflow call).turn run⟩

theorem persists_stageOfKnown
    (id : String)
    (call : Call) :
    Persists (StageOfKnown environment id call) where
  reaches := by
    rintro program history now (rfl | ⟨error, rfl⟩ | ⟨workflow, run⟩) reaches
    · cases reaches with
      | here => exact .inl rfl
      | @ask _ _ found history _ continued =>
        cases found with
        | none =>
          cases continued
          exact .inr (.inl ⟨_, rfl⟩)
        | some workflow => exact .inr (.inr ⟨workflow, history, .start continued⟩)
    · cases reaches
      exact .inr (.inl ⟨error, rfl⟩)
    · exact .inr (.inr ⟨workflow, (persists_run workflow call).reaches run reaches⟩)
  turn := by
    rintro execution (impossible | ⟨error, impossible⟩ | ⟨workflow, run⟩)
    · cases impossible
    · cases impossible
    · exact .inr (.inr ⟨workflow, (persists_run workflow call).turn run⟩)

/-- A workflow that was executed to an end is valid, and its execution is a run. -/
theorem StageOfGiven.exists_run
    {workflow : Workflow}
    {call : Call}
    {record : ExecutionRecord}
    (stage : StageOfGiven environment workflow call (.done (.ended record))) :
    workflow.isValid = true ∧
      ∃ history, Run environment workflow call history (.done (.ended record)) := by
  rcases stage with ⟨error, impossible⟩ | run
  · cases impossible
  · exact run

/-- A workflow that was looked up and executed to an end had a run. -/
theorem StageOfKnown.exists_run
    {id : String}
    {call : Call}
    {record : ExecutionRecord}
    (stage : StageOfKnown environment id call (.done (.ended record))) :
    ∃ workflow history, Run environment workflow call history (.done (.ended record)) := by
  rcases stage with impossible | ⟨error, impossible⟩ | run
  · cases impossible
  · cases impossible
  · exact run

end Execution

namespace Session

open Execution (StageOfGiven persists_stageOfGiven stageOfGiven_start)

variable
  {σ : Type}
  {session after : Session σ}
  {environment : Environment}
  {call : Call}
  {record : ExecutionRecord}

/-- What an engine returns for a workflow that it is given is the end of a run of
that workflow, which is valid. -/
theorem exists_run_of_execute_startGiven
    {workflow : Workflow}
    (executed : session.execute (Execution.startGiven environment workflow call) =
      some (.ok record, after)) :
    workflow.isValid = true ∧
      ∃ history, Execution.Run environment workflow call history (.done (.ended record)) :=
  (holds_of_executeIn (Execution.persists_stageOfGiven workflow call)
    (Execution.stageOfGiven_start environment workflow call) executed).exists_run

/-- What an engine returns for a workflow that it looks up is the end of a run of
some workflow. -/
theorem exists_run_of_execute_startKnown
    {id : String}
    (executed : session.execute (Execution.startKnown environment id call) =
      some (.ok record, after)) :
    ∃ workflow history,
      Execution.Run environment workflow call history (.done (.ended record)) :=
  (holds_of_executeIn (Execution.persists_stageOfKnown id call) (.inl rfl) executed).exists_run

/-- What an execution in the background returns is the end of a run as well, whatever else
goes on in the session while the caller waits for it. -/
theorem exists_run_of_join
    {workflow : Workflow}
    (joined : (session.spawn (Execution.startGiven environment workflow call)).2.join
      (session.spawn (Execution.startGiven environment workflow call)).1 =
        some (.ok record, after)) :
    workflow.isValid = true ∧
      ∃ history, Execution.Run environment workflow call history (.done (.ended record)) := by
  refine StageOfGiven.exists_run (Upholds.join (persists_stageOfGiven workflow call) ?_ joined)
  intro found known
  unfold spawn at known
  rw [List.getElem?_concat_length] at known
  cases known
  exact stageOfGiven_start environment workflow call

end Session
end WorkflowEngine
