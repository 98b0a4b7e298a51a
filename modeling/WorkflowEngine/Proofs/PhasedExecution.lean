import WorkflowEngine.Proofs.Phase
import WorkflowEngine.Proofs.Run

/-!
# Executions in their phases

Executions keep to their phases.  Steps begin only after a look at the signal
that lets them, a look that tells an execution to stop is its last one, and an
execution leaves the registry once.  All of this holds whatever it is answered.
-/

namespace WorkflowEngine

/-- Storing a result does not change whose context it is. -/
@[simp] theorem identity_applyFields
    (result : Object)
    (mappings : Dict OutputMapping)
    (context : Context) :
    (applyFields result mappings context).identity = context.identity := by
  induction mappings generalizing context with
  | nil => rfl
  | cons entry rest inductionHypothesis =>
    obtain ⟨field, mapping⟩ := entry
    unfold applyFields
    split
    next value _ =>
      rw [inductionHypothesis]
      unfold OutputMapping.apply
      split <;> rfl
    next => exact inductionHypothesis context

/-- The output of a step does not change whose context it is. -/
@[simp] theorem Step.identity_applyOutput
    (step : Step)
    (result : Object)
    (context : Context) :
    (step.applyOutput result context).identity = context.identity := by
  unfold applyOutput
  split
  · rfl
  · exact identity_applyFields _ _ _

/-- The reason of an ending that a signal has brought about. -/
def Ending.stop? : Ending → Option (Option String)
  | .cancelled reason => some reason
  | _ => none

namespace Execution

/-- An execution has an identity and listens to a channel. -/
structure Bears (identity : Identity) (channel : Nat) (execution : Execution) : Prop where
  context : execution.context.identity = identity
  record : execution.record.identity = identity
  listener : execution.listener.channel = channel

section

variable
  {identity : Identity}
  {channel : Nat}
  {execution other : Execution}

/-- Only the context, the record and the listener say who an execution is. -/
theorem Bears.of_eq
    (bears : execution.Bears identity channel)
    (context : other.context.identity = execution.context.identity)
    (record : other.record = execution.record)
    (listener : other.listener = execution.listener) :
    other.Bears identity channel where
  context := context.trans bears.context
  record := by
    rw [record]
    exact bears.record
  listener := by
    rw [listener]
    exact bears.listener

theorem Bears.note
    (bears : execution.Bears identity channel)
    (id : String)
    (outcome : StepOutcome) :
    (execution.note id outcome).Bears identity channel := bears.of_eq rfl rfl rfl

theorem Bears.advance
    (bears : execution.Bears identity channel) :
    execution.advance.Bears identity channel := bears.of_eq rfl rfl rfl

theorem Bears.jumpTo
    (bears : execution.Bears identity channel)
    (position : Nat) :
    (execution.jumpTo position).Bears identity channel := bears.of_eq rfl rfl rfl

theorem Bears.route
    (bears : execution.Bears identity channel)
    (target : String) :
    (execution.route target).Bears identity channel := by
  unfold Execution.route
  split
  · split
    · exact bears.advance
    · exact bears.jumpTo _
  · exact bears.advance

/-- To settle a branch does not change who an execution is. -/
theorem Bears.settleBranch
    (bears : execution.Bears identity channel)
    (step : Step)
    (outcome : Outcome) :
    (execution.settleBranch step outcome).Bears identity channel := by
  unfold Execution.settleBranch
  split
  · exact bears.of_eq (step.identity_applyOutput _ _) rfl rfl
  · exact bears.note _ _

end

/-- A flow that no signal has brought about. -/
def Flow.IsOwn : Flow → Prop
  | .finish (.cancelled _) => False
  | _ => True

/-! ## Visits -/

/-- A request belongs to a visit by an execution with an identity. -/
def IsVisitOf (identity : Identity) (request : Request) : Prop :=
  request.isVisit = true ∧ request.Carries identity

/-- A call of a handler carries no identity, and so suits every one. -/
theorem isVisitOf_of_isDispatch
    {identity : Identity}
    (request : Request)
    (dispatch : request.isDispatch = true) :
    IsVisitOf identity request := by
  refine ⟨Request.isVisit_of_isDispatch dispatch, ?_⟩
  cases request <;> trivial

section

variable
  {identity : Identity}
  {channel : Nat}
  {execution : Execution}
  {step : Step}
  {input : Object}

/-- A success leaves an execution who it is, and is no reason to stop for a signal. -/
theorem succeed_bears
    (bears : execution.Bears identity channel)
    (step : Step)
    (outcome : Outcome) :
    (execution.succeed step outcome).1.Bears identity channel ∧
      (execution.succeed step outcome).2.IsOwn := by
  have stored : (if step.type = .parallel then execution.context
      else step.applyOutput outcome.result.data execution.context).identity =
        execution.context.identity := by
    split
    · rfl
    · exact step.identity_applyOutput _ _
  have noted {after : Context} (same : after.identity = execution.context.identity) :
      (({ execution with context := after } : Execution).note step.id .completed).Bears
        identity channel :=
    bears.of_eq same rfl rfl
  unfold succeed
  dsimp only
  split
  · exact ⟨(noted stored).of_eq rfl rfl rfl, trivial⟩
  · split
    · exact ⟨(noted stored).route _, trivial⟩
    · exact ⟨(noted stored).advance, trivial⟩

/-- An attempt is written to the trail of the execution that made it. -/
theorem write_keeps
    (bears : execution.Bears identity channel)
    (startedAt : Timestamp)
    (number : Nat)
    (outcome : Outcome) :
    (execution.write step input startedAt number outcome).Keeps (IsVisitOf identity)
      (Bears identity channel) := by
  have sampled : (execution.usageOf outcome.result).Keeps (IsVisitOf identity)
      fun _ => True := by
    unfold usageOf
    split
    · trivial
    · exact ⟨⟨rfl, trivial⟩, fun reading => trivial⟩
  refine sampled.bind fun usage _ => ⟨⟨rfl, trivial⟩, fun now => ⟨⟨rfl, ?_⟩, fun stored => ?_⟩⟩
  · exact ⟨congrArg Identity.executionId bears.context, congrArg Identity.tenantId bears.context⟩
  · exact bears.of_eq rfl rfl rfl

theorem writeNow_keeps
    (bears : execution.Bears identity channel)
    (outcome : Outcome) :
    (execution.writeNow step outcome).Keeps (IsVisitOf identity) (Bears identity channel) :=
  ⟨⟨rfl, trivial⟩, fun _ => write_keeps bears _ _ _⟩

theorem writeRetries_keeps
    (bears : execution.Bears identity channel)
    (attempts : List Attempt) :
    (writeRetries step input attempts execution).Keeps (IsVisitOf identity)
      (Bears identity channel) := by
  induction attempts generalizing execution with
  | nil => exact bears
  | cons attempt rest inductionHypothesis =>
    have counted : Bears identity channel { execution with retries := execution.retries + 1 } :=
      bears.of_eq rfl rfl rfl
    exact (write_keeps counted _ _ _).bind fun after written => inductionHypothesis written

/-- Whatever branches leave on the trail carries the identity of their execution. -/
theorem settleBranches_keeps
    (bears : execution.Bears identity channel)
    (branches : List Branch)
    (settlement : Settlement) :
    (settleBranches branches settlement execution).Keeps (IsVisitOf identity)
      fun result => result.1.Bears identity channel := by
  induction branches generalizing settlement execution with
  | nil => exact bears
  | cons branch rest inductionHypothesis =>
    cases branch with
    | skipped step => exact inductionHypothesis (bears.note _ _) _
    | ran step input startedAt outcome =>
      exact (write_keeps bears _ _ _).bind fun after written =>
        inductionHypothesis (written.settleBranch _ _) _

/-- A first attempt asks for nothing but what belongs to a visit. -/
theorem firstAttempt_keeps
    (bears : execution.Bears identity channel)
    (limit : Span) :
    (execution.firstAttempt step input limit).Keeps (IsVisitOf identity)
      fun result => result.1.Bears identity channel := by
  unfold firstAttempt
  split
  · refine ((fanOutWithin_uses _ _).keeps isVisitOf_of_isDispatch).bind fun branches _ => ?_
    cases branches with
    | none => exact bears
    | some branches => exact (settleBranches_keeps bears _ _).bind fun _ settled => settled
  · refine ((attemptWithin_uses _).keeps isVisitOf_of_isDispatch).bind fun result _ => ?_
    cases result with
    | none => exact bears
    | some result => exact bears

/-- What a visit comes to is the execution's own, and so is its identity. -/
def IsOwnResult (identity : Identity) (channel : Nat) (result : Execution × Flow) : Prop :=
  result.1.Bears identity channel ∧ result.2.IsOwn

/-- Further attempts ask for nothing but what belongs to a visit, and end it
for no signal. -/
theorem retry_keeps
    (bears : execution.Bears identity channel)
    (first : Outcome) :
    (execution.retry step input first).Keeps (IsVisitOf identity)
      (IsOwnResult identity channel) := by
  refine .request ⟨rfl, trivial⟩ fun clock => ?_
  split
  · exact ⟨bears.note _ _, trivial⟩
  · refine ((retryFrom_uses _ _ _ _ _).keeps isVisitOf_of_isDispatch).bind fun retried _ => ?_
    refine (writeRetries_keeps bears _).bind fun after written => ?_
    split
    · exact ⟨written.note _ _, trivial⟩
    · split
      · exact succeed_bears written _ _
      · exact ⟨written.note _ _, trivial⟩

/-- A failure is handled within the visit, and ends it for no signal. -/
theorem fail_keeps
    (bears : execution.Bears identity channel)
    (outcome : Outcome)
    (condition : Option ConditionError) :
    (execution.fail step input outcome condition).Keeps (IsVisitOf identity)
      (IsOwnResult identity channel) := by
  unfold fail
  dsimp only
  split
  · exact ⟨bears.note _ _, trivial⟩
  · exact ⟨bears.note _ _, trivial⟩
  · exact retry_keeps bears outcome
  · exact ⟨(bears.note _ _).advance, trivial⟩
  · exact ⟨(bears.note _ _).advance, trivial⟩
  · exact ⟨(bears.note _ _).jumpTo _, trivial⟩

/-- A step is performed within the visit. -/
theorem perform_keeps
    (bears : execution.Bears identity channel) :
    (execution.perform step input).Keeps (IsVisitOf identity)
      (IsOwnResult identity channel) := by
  refine .request ⟨rfl, trivial⟩ fun clock => ?_
  split
  · exact ⟨bears, trivial⟩
  · refine .request ⟨rfl, trivial⟩ fun startedAt => ?_
    refine (firstAttempt_keeps bears _).bind fun tried attempted => ?_
    obtain ⟨middle, outcome⟩ := tried
    cases outcome with
    | none =>
      exact (write_keeps attempted _ _ _).bind fun after written => ⟨written.note _ _, trivial⟩
    | some outcome =>
      refine (write_keeps attempted _ _ _).bind fun after written => ?_
      split
      · exact succeed_bears written _ _
      · exact fail_keeps written _ _

/-- A step runs within one visit, and does not end it for a signal. -/
theorem runStep_keeps
    (bears : execution.Bears identity channel) :
    (execution.runStep step).Keeps (IsVisitOf identity) (IsOwnResult identity channel) := by
  unfold runStep
  split
  · exact ⟨(bears.note _ _).advance, trivial⟩
  · exact (writeNow_keeps bears _).bind fun middle written => fail_keeps written _ _
  · split
    · exact (writeNow_keeps bears _).bind fun middle written => fail_keeps written _ _
    · exact perform_keeps bears

end

/-! ## Turns -/

/-- What comes of a turn fits the phase that it ends in. -/
def Fits (identity : Identity) : Phase → Next → Prop
  | .refused, .refused _ => True
  | .between channel, .turn execution => execution.Bears identity channel
  | .stepping channel, .turn execution => execution.Bears identity channel
  | .closed _ (some reason), .ended record =>
    record.identity = identity ∧ record.IsCancelled reason
  | .closed _ none, .ended record =>
    record.identity = identity ∧ record.status.isTerminal = true ∧ record.status ≠ .cancelled
  | _, _ => False

/-- What an execution does in a turn, up to its end, fits the phase that it ends
in. -/
def FitsFlow (identity : Identity) : Phase → Execution × Flow → Prop
  | .between channel, (execution, flow) => execution.Bears identity channel ∧ flow = .goOn
  | .stepping channel, (execution, flow) => execution.Bears identity channel ∧ flow.IsOwn
  | .stopping _ reason, (execution, flow) =>
    execution.context.identity = identity ∧ execution.record.identity = identity ∧
      flow = .finish (.cancelled reason)
  | _, _ => False

section

variable
  {identity : Identity}
  {channel : Nat}
  {execution : Execution}

/-- A request brings the record of an execution with an identity up to date. -/
def IsSyncOf (identity : Identity) : Request → Prop
  | .now => True
  | .update record => record.identity = identity
  | _ => False

/-- A record is brought up to date under the identity that it has. -/
theorem sync_keeps (identified : execution.record.identity = identity) :
    execution.sync.Keeps (IsSyncOf identity) fun after =>
      ∃ now, after = { execution with record := execution.tallied now } :=
  ⟨trivial, fun now => ⟨identified, fun _ => ⟨now, rfl⟩⟩⟩

/-- Phases in which an execution keeps others informed. -/
def IsInformative (phase : Phase) : Prop :=
  ∃ channel, phase = .between channel ∨ phase = .stepping channel

/-- A record may be brought up to date between steps and around them, which
changes no phase. -/
theorem sync_follows
    {phase : Phase}
    (informative : IsInformative phase)
    (bears : execution.Bears identity channel) :
    execution.sync.Follows identity
      (fun last after => last = phase ∧ after.Bears identity channel) phase := by
  have steady (request : Request) (syncs : IsSyncOf identity request) :
      phase.Allows request ∧ request.Carries identity ∧
        ∀ answer, phase.after ⟨request, answer⟩ = phase := by
    obtain ⟨_, rfl | rfl⟩ := informative
    · cases request <;> first | exact ⟨rfl, syncs, fun _ => rfl⟩ | cases syncs
    · cases request <;> first | exact ⟨.inl rfl, syncs, fun _ => rfl⟩ | cases syncs
  refine ((sync_keeps bears.record).follows steady).imp ?_
  rintro _ _ ⟨rfl, now, rfl⟩
  exact ⟨rfl, bears.context, bears.record, bears.listener⟩

/-- A change of status that is no end may be announced between steps and around them, which
changes no phase. -/
theorem change_follows
    {phase : Phase}
    (informative : IsInformative phase)
    (bears : execution.Bears identity channel)
    (status : ExecutionStatus)
    {kind : EventKind}
    (passing : kind.isTerminal = false) :
    (execution.change status kind).Follows identity
      (fun last after => last = phase ∧ after.Bears identity channel) phase := by
  have changed : Bears identity channel
      { execution with record := { execution.record with status := status } } :=
    ⟨bears.context, bears.record, bears.listener⟩
  refine (sync_follows informative changed).bind ?_
  rintro _ after ⟨rfl, synced⟩
  have quiet (record : ExecutionRecord) :
      (Request.announce (.ofRecord kind record)).isUpkeep = true := by
    simp [Request.isUpkeep, Event.ofRecord, passing]
  obtain ⟨_, rfl | rfl⟩ := informative
  · exact .request (quiet _) synced.record fun _ => ⟨rfl, synced⟩
  · exact .request (.inl (quiet _)) synced.record fun _ => ⟨rfl, synced⟩

/-- A visit stays in the phase that a look has led to. -/
theorem steady_visit (request : Request) (visits : IsVisitOf identity request) :
    (Phase.stepping channel).Allows request ∧ request.Carries identity ∧
      ∀ answer, (Phase.stepping channel).after ⟨request, answer⟩ = .stepping channel := by
  obtain ⟨visits, carries⟩ := visits
  refine ⟨?_, carries, fun answer => ?_⟩
  · cases request <;> first | exact .inr rfl | cases visits
  · cases request <;> first | rfl | cases visits

/-- A step begins after a look that lets it, and ends in the same phase. -/
theorem step_follows
    (bears : execution.Bears identity channel) :
    execution.step.Follows identity (FitsFlow identity) (.stepping channel) := by
  unfold step
  split
  · exact ⟨bears, trivial⟩
  next step _ =>
    refine .request (.inr rfl) trivial fun clock => ?_
    split
    · exact ⟨bears, trivial⟩
    · have noted : Bears identity channel
          { execution with record := { execution.record with currentStep := some step.id } } :=
        ⟨bears.context, bears.record, bears.listener⟩
      refine ((runStep_keeps noted).follows steady_visit).bind ?_
      rintro _ ⟨after, flow⟩ ⟨rfl, result, own⟩
      refine (sync_follows ⟨channel, .inr rfl⟩ result).bind ?_
      rintro _ synced ⟨rfl, bears⟩
      exact ⟨bears, own⟩

/-- An execution that is paused has to look at its signal before anything else. -/
theorem pause_follows
    (bears : execution.Bears identity channel) :
    execution.pause.Follows identity (FitsFlow identity) (.between channel) := by
  refine (change_follows ⟨channel, .inl rfl⟩ bears _ rfl).bind ?_
  rintro _ after ⟨rfl, changed⟩
  exact ⟨changed.of_eq rfl rfl rfl, rfl⟩

/-- An execution resumes after a look that lets it, with a step. -/
theorem resume_follows
    (bears : execution.Bears identity channel) :
    execution.resume.Follows identity (FitsFlow identity) (.stepping channel) := by
  have resumed : Bears identity channel { execution with isPaused := false } :=
    bears.of_eq rfl rfl rfl
  refine (change_follows ⟨channel, .inr rfl⟩ resumed _ rfl).bind ?_
  rintro _ after ⟨rfl, changed⟩
  exact step_follows changed

/-- A turn begins before or behind the step that the latest look let begin. -/
def IsTurning (channel : Nat) (phase : Phase) : Prop :=
  phase = .between channel ∨ phase = .stepping channel

/-- A turn of a running execution begins with a look at its signal, and the look decides how
the turn goes on. -/
theorem runningActivity_follows
    {phase : Phase}
    (turning : IsTurning channel phase)
    (bears : execution.Bears identity channel) :
    execution.runningActivity.Follows identity (FitsFlow identity) phase := by
  have looked (listener : Listener) :
      Bears identity listener.channel { execution with listener := listener } :=
    ⟨bears.context, bears.record, rfl⟩
  refine .request ?_ trivial ?_
  · rcases turning with rfl | rfl <;> exact bears.listener
  · rintro ⟨signal, listener⟩
    cases signal with
    | run => exact step_follows (looked listener)
    | pause => exact pause_follows (looked listener)
    | cancel reason => exact ⟨bears.context, bears.record, rfl⟩

/-- A turn of a paused execution begins the same way. -/
theorem pausedActivity_follows
    {phase : Phase}
    (turning : IsTurning channel phase)
    (bears : execution.Bears identity channel) :
    execution.pausedActivity.Follows identity (FitsFlow identity) phase := by
  have looked (listener : Listener) :
      Bears identity listener.channel { execution with listener := listener } :=
    ⟨bears.context, bears.record, rfl⟩
  refine .request ?_ trivial fun heard => ?_
  · rcases turning with rfl | rfl <;> exact bears.listener
  · cases heard with
    | silence signal => cases signal <;> exact ⟨bears.context, bears.record, rfl⟩
    | news signal listener =>
      cases signal with
      | run => exact resume_follows (looked listener)
      | pause => exact ⟨looked listener, rfl⟩
      | cancel reason => exact ⟨bears.context, bears.record, rfl⟩

/-- The closing record is one of the same execution. -/
theorem identity_closingRecord (execution : Execution) (ending : Ending) (now : Timestamp) :
    (execution.closingRecord ending now).identity = execution.record.identity := by
  unfold closingRecord
  dsimp only
  split <;> rfl

/-- Every end is made known, and only one that a signal has brought about as a
cancellation. -/
theorem exists_kind_of_ending (ending : Ending) :
    ∃ kind, EventKind.ofTerminal? ending.status = some kind ∧ kind.isTerminal = true ∧
      (kind = .cancelled ↔ ending.stop?.isSome = true) := by
  cases ending <;> exact ⟨_, rfl, rfl, by simp [Ending.stop?]⟩

/-- The final record says whether a signal has brought about the end. -/
theorem fits_ended
    {closing : Execution}
    {ending : Ending}
    (identified : closing.record.identity = identity)
    (channel : Nat)
    (now later : Timestamp) :
    Fits identity (.closed channel ending.stop?) (.ended
      (({ closing with record := closing.closingRecord ending now } : Execution).tallied
        later)) := by
  cases ending with
  | cancelled reason => exact ⟨identified, rfl, rfl, rfl, rfl⟩
  | completed => exact ⟨identified, rfl, nofun⟩
  | timedOut stepId => exact ⟨identified, rfl, nofun⟩
  | failed stepId cause => cases cause <;> exact ⟨identified, rfl, nofun⟩

/-- An execution that leaves the registry closes its record and makes its end
known. -/
theorem finalize_follows
    {phase : Phase}
    {ending : Ending}
    (allows : phase.Allows (.unregister execution.context.executionId))
    (leaves : ∀ answer,
      phase.after ⟨.unregister execution.context.executionId, answer⟩ =
        .left channel ending.stop?)
    (context : execution.context.identity = identity)
    (record : execution.record.identity = identity) :
    (execution.finalize ending).Follows identity
      (fun last record => Fits identity last (.ended record)) phase := by
  refine .request allows (congrArg Identity.executionId context) fun answer => ?_
  rw [leaves answer]
  refine .request trivial trivial fun now => ?_
  have settled : (execution.settled ending).record.identity = identity := by
    rw [record_settled]
    exact record
  have closed := (identity_closingRecord (execution.settled ending) ending now).trans settled
  have steady (request : Request) (syncs : IsSyncOf identity request) :
      (Phase.left channel ending.stop?).Allows request ∧ request.Carries identity ∧
        ∀ answer, (Phase.left channel ending.stop?).after ⟨request, answer⟩ =
          .left channel ending.stop? := by
    cases request <;> first | exact ⟨trivial, syncs, fun _ => rfl⟩ | cases syncs
  refine ((sync_keeps closed).follows steady).bind ?_
  rintro _ _ ⟨rfl, later, rfl⟩
  obtain ⟨kind, announced, terminal, cancelled⟩ := exists_kind_of_ending ending
  unfold announceEnd
  rw [announced]
  exact ⟨⟨terminal, cancelled⟩, closed, fun _ => fits_ended settled channel now later⟩

/-- A turn keeps to the phases of its execution, and so does the next one. -/
theorem turn_follows
    {phase : Phase}
    (turning : IsTurning channel phase)
    (bears : execution.Bears identity channel) :
    execution.turn.Follows identity (Fits identity) phase := by
  have acted : execution.activity.Follows identity (FitsFlow identity) phase := by
    unfold activity
    split
    · exact pausedActivity_follows turning bears
    · exact runningActivity_follows turning bears
  refine acted.bind ?_
  rintro phase ⟨after, flow⟩ fits
  cases phase with
  | between channel =>
    obtain ⟨bears, rfl⟩ := fits
    exact bears
  | stepping channel =>
    obtain ⟨bears, own⟩ := fits
    cases flow with
    | goOn => exact bears
    | finish ending =>
      have unstopped : ending.stop? = none := by
        cases ending with
        | cancelled reason => exact own.elim
        | _ => rfl
      have leaves (answer : Unit) : Phase.after (.stepping channel)
          ⟨.unregister after.context.executionId, answer⟩ = .left channel ending.stop? := by
        rw [unstopped]
        rfl
      have allows : Phase.Allows (.stepping channel)
          (.unregister after.context.executionId) := trivial
      exact (finalize_follows allows leaves bears.context bears.record).bind
        fun last record fits => fits
  | stopping channel reason =>
    obtain ⟨context, record, rfl⟩ := fits
    have allows : Phase.Allows (.stopping channel reason)
        (.unregister after.context.executionId) := trivial
    exact (finalize_follows allows (fun _ => rfl) context record).bind
      fun last record fits => fits
  | _ => exact fits.elim

end

/-! ## Runs -/

/-- Who an execution of a workflow is. -/
def identityOf (workflow : Workflow) (call : Call) : Identity where
  executionId := call.executionId
  workflowId := workflow.id
  tenantId := call.options.tenantId.getD defaultTenant

section

variable {environment : Environment} {workflow : Workflow} {call : Call}

/-- A start fits the phases of an execution from the very first request. -/
theorem start_follows :
    (start environment workflow call).Follows (identityOf workflow call)
      (Fits (identityOf workflow call)) .outside := by
  refine .request trivial trivial fun clock => .request trivial rfl fun admission => ?_
  cases admission with
  | error error => trivial
  | ok listener =>
    refine .request trivial trivial fun now => .request trivial rfl fun created => ?_
    cases created with
    | error error => exact .request trivial rfl fun _ => trivial
    | ok stored =>
      refine .request rfl rfl fun _ => ?_
      have opened : Bears (identityOf workflow call) listener.channel
          (opening environment workflow call listener clock now) := ⟨rfl, rfl, rfl⟩
      refine (sync_follows ⟨_, .inl rfl⟩ opened).bind ?_
      rintro _ execution ⟨rfl, bears⟩
      exact bears

/-- Where another turn follows, it keeps to the phase that has been reached. -/
theorem follows_of_fits
    {identity : Identity}
    {phase : Phase}
    {execution : Execution}
    (fits : Fits identity phase (.turn execution)) :
    execution.turn.Follows identity (Fits identity) phase := by
  cases phase with
  | between channel => exact turn_follows (.inl rfl) fits
  | stepping channel => exact turn_follows (.inr rfl) fits
  | closed channel stop => cases stop <;> exact fits.elim
  | _ => exact fits.elim

/-- Wherever a run has come to, it keeps to the phase that its history has led
to, and it has named none but its own identity. -/
theorem Run.follows_phase
    {history : History}
    {now : Program Next}
    (run : Run environment workflow call history now) :
    now.Follows (identityOf workflow call) (Fits (identityOf workflow call)) history.phase ∧
      ∀ exchange ∈ history, exchange.request.Carries (identityOf workflow call) := by
  induction run with
  | start begun => exact start_follows.reaches begun
  | turn _ turned inductionHypothesis =>
    obtain ⟨fits, carried⟩ := inductionHypothesis
    obtain ⟨rest, others⟩ := (follows_of_fits fits).reaches turned
    rw [History.phase_append]
    refine ⟨rest, fun exchange member => ?_⟩
    exact (List.mem_append.mp member).elim (carried exchange) (others exchange)

/-- A run makes its end known once, and only when it is over. -/
theorem Run.announced
    {history : History}
    {now : Program Next}
    (run : Run environment workflow call history now) :
    history.phase.Announced history.endings := by
  induction run with
  | start begun => exact start_follows.announced begun rfl
  | turn run turned inductionHypothesis =>
    rw [History.phase_append, History.endings_append]
    exact (follows_of_fits run.follows_phase.1).announced turned inductionHypothesis

end

end Execution
end WorkflowEngine
