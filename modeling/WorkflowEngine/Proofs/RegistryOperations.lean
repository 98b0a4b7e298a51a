import WorkflowEngine.Proofs.Capacity

/-!
# Operations on a registry

The status of an entry and the signal on its channel tell the same in two ways.
They agree whatever is asked of a registry in whatever order, as long as nobody
sets a status but to let a pending execution run.  Signals that no entry can
change any more stay for good.
-/

namespace WorkflowEngine

namespace Registry

/-! ## Operations -/

/-- What executions and their callers can ask of a registry. -/
inductive Operation where
  | register (id workflowId tenantId : String) (limit : Nat)
  | setStatus (id : String) (status : ExecutionStatus)
  | pause (id : String)
  | resume (id : String)
  | cancel (id : String) (reason : Option String)
  | unregister (id : String)

namespace Operation

/-- What an operation makes of a registry, unless it is refused. -/
def result (registry : Registry) : Operation → Except EngineError Registry
  | .register id workflowId tenantId limit =>
    (registry.register id workflowId tenantId limit).map Prod.fst
  | .setStatus id status => .ok (registry.setStatus id status)
  | .pause id => registry.pause id
  | .resume id => registry.resume id
  | .cancel id reason => registry.cancel id reason
  | .unregister id => .ok (registry.unregister id)

/-- The request by which an execution asks for an operation. -/
def request? : Operation → Option Request
  | .register id workflowId tenantId limit => some (.register id workflowId tenantId limit)
  | .setStatus id status => some (.setStatus id status)
  | .unregister id => some (.unregister id)
  | .pause _ | .resume _ | .cancel .. => none

/-- The signal that an operation asks to send, and the execution that is to hear it. -/
def signal? : Operation → Option (String × Signal)
  | .pause id => some (id, .pause)
  | .resume id => some (id, .run)
  | .cancel id reason => some (id, .cancel reason)
  | .register .. | .setStatus .. | .unregister _ => none

/-- An operation that may take the entry of an execution away. -/
def Removes (id : String) : Operation → Prop
  | .cancel other _ | .unregister other => other = id
  | _ => False

/-- A status may only be set to let a pending execution run. -/
def IsProper (registry : Registry) : Operation → Prop
  | .setStatus id status =>
    status = .running ∧ ∀ entry, registry.entry? id = some entry → entry.status = .pending
  | _ => True

end Operation

/-- An operation that is refused leaves a registry as it is. -/
def perform (registry : Registry) (operation : Operation) : Registry :=
  match operation.result registry with
  | .ok after => after
  | .error _ => registry

/-- Performs operations one after another. -/
def run (registry : Registry) (operations : List Operation) : Registry :=
  operations.foldl perform registry

/-- Every status that operations set is set properly. -/
def IsProper (registry : Registry) : List Operation → Prop
  | [] => True
  | operation :: rest => operation.IsProper registry ∧ (registry.perform operation).IsProper rest

section

variable
  {registry after : Registry}
  {operation : Operation}
  {operations rest : List Operation}

@[simp] theorem run_nil : registry.run [] = registry := rfl

@[simp] theorem run_cons :
    registry.run (operation :: rest) = (registry.perform operation).run rest := rfl

@[simp] theorem run_append :
    registry.run (operations ++ rest) = (registry.run operations).run rest :=
  List.foldl_append

/-- Operations are proper one after another if each part is, where the one before has led. -/
theorem isProper_append :
    registry.IsProper (operations ++ rest) ↔
      registry.IsProper operations ∧ (registry.run operations).IsProper rest := by
  induction operations generalizing registry with
  | nil => simp [IsProper]
  | cons operation operations inductionHypothesis =>
    rw [List.cons_append, IsProper, IsProper, run_cons, inductionHypothesis, and_assoc]

theorem perform_of_ok (done : operation.result registry = .ok after) :
    registry.perform operation = after := by
  unfold perform
  rw [done]

theorem perform_of_error
    {error : EngineError}
    (refused : operation.result registry = .error error) :
    registry.perform operation = registry := by
  unfold perform
  rw [refused]

/-- What an operation makes of a registry where it is not refused. -/
inductive Makes (registry : Registry) : Operation → Registry → Prop
  | register
      {id workflowId tenantId : String}
      {limit : Nat}
      {after : Registry}
      {listener : Listener}
      (admitted : registry.register id workflowId tenantId limit = .ok (after, listener)) :
      Makes registry (.register id workflowId tenantId limit) after
  | setStatus (id : String) (status : ExecutionStatus) :
      Makes registry (.setStatus id status) (registry.setStatus id status)
  | grant
      {operation : Operation}
      {id : String}
      {signal : Signal}
      {after : Registry}
      (asked : operation.signal? = some (id, signal))
      (granted : registry.grant id signal = .ok after) :
      Makes registry operation after
  | unregister (id : String) :
      Makes registry (.unregister id) (registry.unregister id)

/-- Every operation that is not refused is of one of these forms. -/
theorem makes_of_result (done : operation.result registry = .ok after) :
    registry.Makes operation after := by
  cases operation with
  | register id workflowId tenantId limit =>
    dsimp only [Operation.result] at done
    cases admitted : registry.register id workflowId tenantId limit with
    | error error =>
      rw [admitted] at done
      cases done
    | ok result =>
      rw [admitted] at done
      cases done
      exact .register admitted
  | setStatus id status =>
    cases done
    exact .setStatus id status
  | pause id => exact .grant rfl done
  | resume id => exact .grant rfl done
  | cancel id reason => exact .grant rfl done
  | unregister id =>
    cases done
    exact .unregister id

/-- A registry answers an execution by performing the operation that it asks for. -/
theorem Answers.eq_perform
    {request : Request}
    {answer : request.Answer}
    (answers : registry.Answers request answer after)
    (asked : operation.request? = some request) :
    after = registry.perform operation := by
  cases operation with
  | register id workflowId tenantId limit =>
    cases asked
    cases answers with
    | admitted admitted => simp [perform, Operation.result, admitted, Except.map]
    | rejected rejected => simp [perform, Operation.result, rejected, Except.map]
    | foreign foreign => cases foreign
  | setStatus id status =>
    cases asked
    cases answers with
    | setStatus => rfl
    | foreign foreign => cases foreign
  | unregister id =>
    cases asked
    cases answers with
    | unregister => rfl
    | foreign foreign => cases foreign
  | _ => cases asked

/-- A registry keeps what every operation keeps that is not refused. -/
theorem perform_induction
    {motive : Registry → Prop}
    (start : motive registry)
    (step : ∀ {after}, registry.Makes operation after → motive after) :
    motive (registry.perform operation) := by
  cases done : operation.result registry with
  | error error => rwa [perform_of_error done]
  | ok after =>
    rw [perform_of_ok done]
    exact step (makes_of_result done)

/-- An operation answers a request of an execution, or grants one of a caller. -/
theorem Makes.answers_or_grant (makes : registry.Makes operation after) :
    (∃ request answer, registry.Answers request answer after) ∨
      ∃ id signal, registry.grant id signal = .ok after := by
  cases makes with
  | register admitted => exact .inl ⟨_, _, .admitted admitted⟩
  | setStatus id status => exact .inl ⟨_, _, .setStatus id status⟩
  | grant _ granted => exact .inr ⟨_, _, granted⟩
  | unregister id => exact .inl ⟨_, _, .unregister id⟩

/-- No operation takes two executions to one channel. -/
theorem Sound.makes
    (sound : registry.Sound)
    (makes : registry.Makes operation after) :
    after.Sound := by
  rcases makes.answers_or_grant with ⟨request, answer, answers⟩ | ⟨id, signal, granted⟩
  · exact sound.answers answers
  · exact sound.grant granted

/-- A registry stays sound whatever is asked of it. -/
theorem Sound.run
    (sound : registry.Sound)
    (operations : List Operation) :
    (registry.run operations).Sound :=
  List.foldlRecOn operations perform sound fun _ sound _ _ =>
    perform_induction sound fun makes => sound.makes makes

/-! ## Statuses and signals -/

/-- Executions under way are pending, running or paused, and what their channels say agrees
with that. -/
structure Coherent (registry : Registry) : Prop where
  sound : registry.Sound
  status : ∀ {id entry}, registry.entry? id = some entry →
    entry.status = .pending ∨ entry.status = .running ∨ entry.status = .paused
  signal : ∀ {id entry}, registry.entry? id = some entry →
    (registry.channel entry.channel).signal = if entry.status = .paused then .pause else .run

theorem coherent_empty : Coherent {} where
  sound := sound_empty
  status := nofun
  signal := nofun

section

variable
  {id workflowId tenantId : String}
  {limit : Nat}
  {listener : Listener}
  {entry : Entry}
  {signal : Signal}

/-- An execution that is admitted is pending, and its channel lets it run. -/
theorem Coherent.register
    (coherent : registry.Coherent)
    (admitted : registry.register id workflowId tenantId limit = .ok (after, listener)) :
    after.Coherent := by
  have entries := entry?_register admitted
  have channels := channel_register admitted
  refine ⟨coherent.sound.register admitted, fun {other entry} known => ?_,
    fun {other entry} known => ?_⟩
  · rw [entries] at known
    split at known
    next =>
      cases known
      exact .inl rfl
    next => exact coherent.status known
  · rw [entries] at known
    rw [channels]
    split at known
    next =>
      cases known
      simp [channel]
    next => exact coherent.signal known

/-- A pending execution may be said to run. -/
theorem Coherent.setStatus
    (coherent : registry.Coherent)
    (id : String)
    (pending : ∀ entry, registry.entry? id = some entry → entry.status = .pending) :
    (registry.setStatus id .running).Coherent := by
  refine ⟨coherent.sound.setStatus id .running, fun {other entry} known => ?_,
    fun {other entry} known => ?_⟩
  · rw [entry?_setStatus] at known
    split at known
    next =>
      obtain ⟨before, -, rfl⟩ := Option.map_eq_some_iff.mp known
      exact .inr (.inl rfl)
    next => exact coherent.status known
  · rw [entry?_setStatus] at known
    split at known
    next same =>
      subst same
      obtain ⟨before, found, rfl⟩ := Option.map_eq_some_iff.mp known
      have told := coherent.signal found
      rw [pending before found] at told
      exact told
    next => exact coherent.signal known

/-- The status that a signal gives agrees with it. -/
theorem signal_of_status?
    {status : ExecutionStatus}
    (given : signal.status? = some status) :
    (status = .pending ∨ status = .running ∨ status = .paused) ∧
      signal = if status = .paused then .pause else .run := by
  cases signal <;> cases given <;> simp

/-- A request that is granted changes the signal and the status together. -/
theorem Coherent.grant
    (coherent : registry.Coherent)
    (granted : registry.grant id signal = .ok after) :
    after.Coherent := by
  have sound := coherent.sound
  obtain ⟨known, found, -⟩ := grant_ok granted
  have entries := entry?_grant sound granted found
  have signals := signal_grant sound granted found
  refine ⟨sound.grant granted, fun {other entry} held => ?_, fun {other entry} held => ?_⟩
  · rw [entries] at held
    split at held
    next =>
      obtain ⟨status, given, rfl⟩ := Option.map_eq_some_iff.mp held
      exact (signal_of_status? given).1
    next => exact coherent.status held
  · rw [entries] at held
    rw [signals]
    split at held
    next =>
      obtain ⟨status, given, rfl⟩ := Option.map_eq_some_iff.mp held
      exact (if_pos rfl).trans (signal_of_status? given).2
    next different =>
      rw [if_neg fun shared => different (sound.distinct held found shared)]
      exact coherent.signal held

/-- Status and signal of the others agree still when an execution leaves. -/
theorem Coherent.unregister
    (coherent : registry.Coherent)
    (id : String) :
    (registry.unregister id).Coherent := by
  have kept {other : String} {entry : Entry}
      (known : Registry.entry? (registry.unregister id) other = some entry) :
      registry.entry? other = some entry := by
    rw [entry?_unregister coherent.sound.unambiguous] at known
    split at known
    next => cases known
    next => exact known
  refine ⟨coherent.sound.unregister id, fun known => coherent.status (kept known),
    fun known => ?_⟩
  rw [signal_unregister]
  exact coherent.signal (kept known)

end

/-- What is done properly keeps statuses and signals in agreement. -/
theorem Coherent.makes
    (coherent : registry.Coherent)
    (proper : operation.IsProper registry)
    (makes : registry.Makes operation after) :
    after.Coherent := by
  cases makes with
  | register admitted => exact coherent.register admitted
  | setStatus id status =>
    obtain ⟨rfl, pending⟩ := proper
    exact coherent.setStatus id pending
  | grant _ granted => exact coherent.grant granted
  | unregister id => exact coherent.unregister id

/-- Status and signal agree whatever is asked, as long as each status is set properly. -/
theorem Coherent.run
    (coherent : registry.Coherent)
    (proper : registry.IsProper operations) :
    (registry.run operations).Coherent := by
  induction operations generalizing registry with
  | nil => exact coherent
  | cons operation rest inductionHypothesis =>
    exact inductionHypothesis
      (perform_induction coherent fun makes => coherent.makes proper.1 makes) proper.2

/-- What a granted request makes of a registry.  Its channel says the signal, and its entry
has the status that goes with it, or is gone.  Nothing else has changed. -/
structure Obeys (before : Registry) (id : String) (signal : Signal) (after : Registry) :
    Prop where
  exists_entry : ∃ entry, before.entry? id = some entry ∧
    after.entry? id = signal.status?.map (fun status => { entry with status := status }) ∧
    after.channels[entry.channel]?.map Channel.signal = some signal ∧
    ∀ number ≠ entry.channel, after.channels[number]? = before.channels[number]?
  others : ∀ other ≠ id, after.entry? other = before.entry? other

/-- A granted request reaches one entry and its channel, and no other. -/
theorem Sound.obeys
    {id : String}
    {signal : Signal}
    (sound : registry.Sound)
    (granted : registry.grant id signal = .ok after) :
    registry.Obeys id signal after := by
  obtain ⟨entry, known, -⟩ := grant_ok granted
  have entries := entry?_grant sound granted known
  have told := signal_grant sound granted known entry.channel
  have bounded : entry.channel < after.channels.length :=
    length_grant granted ▸ sound.bounded known
  rw [if_pos rfl, channel, List.getElem?_eq_getElem bounded] at told
  refine ⟨⟨entry, known, ?_, ?_, fun number other => getElem?_grant granted known other⟩,
    fun other different => ?_⟩
  · rw [entries, if_pos rfl]
  · rw [List.getElem?_eq_getElem bounded, ← told]
    rfl
  · rw [entries, if_neg different]

/-! ## Receivers -/

section

variable
  {id workflowId tenantId : String}
  {limit number : Nat}
  {listener : Listener}
  {entry : Entry}
  {signal : Signal}
  {reason : Option String}

/-- An entry keeps its channel until something removes it. -/
theorem Makes.exists_entry
    (sound : registry.Sound)
    (known : registry.entry? id = some entry)
    (kept : ¬ operation.Removes id)
    (makes : registry.Makes operation after) :
    ∃ next, after.entry? id = some next ∧ next.channel = entry.channel := by
  cases makes with
  | register admitted =>
    refine ⟨entry, ?_, rfl⟩
    rw [entry?_register admitted, if_neg, known]
    rintro rfl
    rw [(register_ok admitted).1] at known
    cases known
  | setStatus other status =>
    rw [entry?_setStatus, known]
    split
    next => exact ⟨_, rfl, rfl⟩
    next => exact ⟨_, rfl, rfl⟩
  | @grant _ other signal _ asked granted =>
    obtain ⟨last, found, -⟩ := grant_ok granted
    rw [entry?_grant sound granted found]
    split
    next same =>
      subst same
      cases found.symm.trans known
      -- Only a cancellation gives no status, and that would be a removal.
      cases operation <;> cases asked
      next => exact ⟨_, rfl, rfl⟩
      next => exact ⟨_, rfl, rfl⟩
      next => exact (kept rfl).elim
    next => exact ⟨entry, known, rfl⟩
  | unregister other =>
    refine ⟨entry, ?_, rfl⟩
    rw [entry?_unregister sound.unambiguous, if_neg (Ne.symm kept), known]

/-- An entry stays, on its channel, until it is taken away. -/
theorem exists_entry_of_run
    (sound : registry.Sound)
    (known : registry.entry? id = some entry)
    (kept : ∀ operation ∈ operations, ¬ operation.Removes id) :
    ∃ next, Registry.entry? (registry.run operations) id = some next ∧
      next.channel = entry.channel := by
  induction operations generalizing registry entry with
  | nil => exact ⟨entry, known, rfl⟩
  | cons operation rest inductionHypothesis =>
    obtain ⟨stays, kept⟩ := List.forall_mem_cons.mp kept
    obtain ⟨next, held, same⟩ : ∃ next,
        Registry.entry? (registry.perform operation) id = some next ∧
        next.channel = entry.channel :=
      perform_induction ⟨entry, known, rfl⟩ fun makes => makes.exists_entry sound known stays
    obtain ⟨last, found, shared⟩ := inductionHypothesis (sound.run [operation]) held kept
    exact ⟨last, found, shared.trans same⟩

/-- A channel says something, and belongs to no entry that could change it. -/
structure Retired (registry : Registry) (number : Nat) (signal : Signal) : Prop where
  sound : registry.Sound
  bounded : number < registry.channels.length
  absent : ∀ {id entry}, registry.entry? id = some entry → entry.channel ≠ number
  signal_eq : (registry.channel number).signal = signal

/-- No operation changes what a channel without an entry says. -/
theorem Retired.makes
    (retired : registry.Retired number signal)
    (makes : registry.Makes operation after) :
    after.Retired number signal := by
  have sound := retired.sound
  rcases makes.answers_or_grant with ⟨request, answer, answers⟩ | ⟨id, given, granted⟩
  · refine ⟨sound.answers answers, Nat.lt_of_lt_of_le retired.bounded answers.length_le, ?_, ?_⟩
    · intro id entry known same
      obtain ⟨before, found, shared, -⟩ :=
        answers.exists_entry sound known (same ▸ retired.bounded)
      exact retired.absent found (shared.symm.trans same)
    · exact (answers.signal_eq number).trans retired.signal_eq
  · obtain ⟨entry, known, -⟩ := grant_ok granted
    refine ⟨sound.grant granted, length_grant granted ▸ retired.bounded, ?_, ?_⟩
    · intro other last found
      rw [entry?_grant sound granted known] at found
      split at found
      next =>
        obtain ⟨status, -, rfl⟩ := Option.map_eq_some_iff.mp found
        exact fun same => retired.absent known same
      next => exact retired.absent found
    · rw [signal_grant sound granted known, if_neg (Ne.symm (retired.absent known))]
      exact retired.signal_eq

/-- A channel without an entry says the same from then on. -/
theorem Retired.run
    (retired : registry.Retired number signal)
    (operations : List Operation) :
    (registry.run operations).Retired number signal := by
  induction operations generalizing registry with
  | nil => exact retired
  | cons operation rest inductionHypothesis =>
    exact inductionHypothesis (perform_induction retired fun makes => retired.makes makes)

/-- The channel of an execution that is cancelled tells so for good. -/
theorem retired_of_cancel
    (sound : registry.Sound)
    (known : registry.entry? id = some entry)
    (granted : registry.grant id (.cancel reason) = .ok after) :
    after.Retired entry.channel (.cancel reason) := by
  refine ⟨sound.grant granted, length_grant granted ▸ sound.bounded known, ?_, ?_⟩
  · intro other last found same
    rw [entry?_grant sound granted known] at found
    split at found
    next => cases found
    next different => exact different (sound.distinct found known same)
  · rw [signal_grant sound granted known, if_pos rfl]

/-! ## What is refused -/

/-- A transition succeeds exactly from the status that it is meant for. -/
theorem exists_transition_iff
    {action : LifecycleAction}
    {source target : ExecutionStatus} :
    (∃ after, registry.transition id action source target signal = .ok after) ↔
      ∃ entry, registry.entry? id = some entry ∧ entry.status = source := by
  constructor
  · rintro ⟨after, granted⟩
    obtain ⟨entry, known, same, -⟩ := transition_ok granted
    exact ⟨entry, known, same⟩
  · rintro ⟨entry, known, same⟩
    unfold transition
    rw [known]
    exact ⟨_, if_pos same⟩

/-- Whoever has an entry can be cancelled, since no entry has come to its end. -/
theorem Coherent.exists_cancel_iff
    (coherent : registry.Coherent) :
    (∃ after, registry.cancel id reason = .ok after) ↔
      ∃ entry, registry.entry? id = some entry := by
  constructor
  · rintro ⟨after, granted⟩
    obtain ⟨entry, known, -⟩ := cancel_ok granted
    exact ⟨entry, known⟩
  · rintro ⟨entry, known⟩
    have going : entry.status.isTerminal = false := by
      rcases coherent.status known with same | same | same <;> rw [same] <;> rfl
    unfold cancel
    rw [known]
    exact ⟨_, if_neg (by simp [going])⟩

/-- An execution is admitted exactly if its name is free and fewer than the limit are under
way. -/
theorem exists_register_iff :
    (∃ admission, registry.register id workflowId tenantId limit = .ok admission) ↔
      registry.entry? id = none ∧ registry.activeCount workflowId < limit := by
  constructor
  · rintro ⟨⟨after, listener⟩, admitted⟩
    exact ⟨(register_ok admitted).1, lt_of_register admitted⟩
  · rintro ⟨absent, room⟩
    unfold register
    rw [absent]
    exact ⟨_, if_neg (Nat.not_le_of_lt room)⟩

/-- Whoever was given a channel at an admission hears of the cancellation by which its
entry was removed, whatever is done afterwards. -/
theorem Coherent.latest_of_cancel
    {between since : List Operation}
    (coherent : registry.Coherent)
    (proper : registry.IsProper
      (.register id workflowId tenantId limit :: between ++ .cancel id reason :: since))
    (admitted : registry.register id workflowId tenantId limit = .ok (after, listener))
    (kept : ∀ operation ∈ between, ¬ operation.Removes id) :
    ((registry.run (.register id workflowId tenantId limit :: between ++
      .cancel id reason :: since)).latest listener).1 = .cancel reason := by
  have performed : registry.perform (.register id workflowId tenantId limit) = after := by
    refine perform_of_ok ?_
    dsimp only [Operation.result]
    rw [admitted]
    rfl
  rw [List.cons_append, IsProper, performed, isProper_append] at proper
  have begun := coherent.register admitted
  have known := entry?_register admitted id
  rw [if_pos rfl] at known
  obtain ⟨entry, held, same⟩ := exists_entry_of_run begun.sound known kept
  have going := begun.run proper.2.1
  obtain ⟨last, cancelled⟩ :
      ∃ last, (Operation.cancel id reason).result (after.run between) = .ok last :=
    going.exists_cancel_iff.mpr ⟨entry, held⟩
  have retired := (retired_of_cancel going.sound held cancelled).run since
  have listens : listener.channel = entry.channel := by
    rw [same, (register_ok admitted).2.1]
  rw [List.cons_append, run_cons, performed, run_append, run_cons, perform_of_ok cancelled,
    ← retired.signal_eq, ← listens]
  rfl

/-! ## How many entries there are -/

/-- No operation takes the executions of a workflow over a bound on all limits. -/
theorem Makes.activeCount_le
    {bound : Nat}
    (bounded : ∀ id tenantId limit,
      operation = .register id workflowId tenantId limit → limit ≤ bound)
    (few : registry.activeCount workflowId ≤ bound)
    (makes : registry.Makes operation after) :
    after.activeCount workflowId ≤ bound := by
  cases makes with
  | @register id other tenantId limit _ _ admitted =>
    rw [activeCount_register admitted]
    split
    next same =>
      subst same
      exact Nat.le_trans (lt_of_register admitted) (bounded id tenantId limit rfl)
    next => exact few
  | setStatus id status => rwa [activeCount_setStatus]
  | grant _ granted => exact Nat.le_trans (activeCount_grant_le granted workflowId) few
  | unregister id => exact Nat.le_trans (activeCount_unregister_le registry id workflowId) few

/-- At no time are there more executions of a workflow than the largest limit lets in. -/
theorem activeCount_run_le
    {bound : Nat}
    (bounded : ∀ id tenantId limit,
      .register id workflowId tenantId limit ∈ operations → limit ≤ bound)
    (few : registry.activeCount workflowId ≤ bound) :
    (registry.run operations).activeCount workflowId ≤ bound := by
  induction operations generalizing registry with
  | nil => exact few
  | cons operation rest inductionHypothesis =>
    refine inductionHypothesis
      (fun id tenantId limit member => bounded id tenantId limit (List.mem_cons_of_mem _ member))
      (perform_induction (motive := fun registry => registry.activeCount workflowId ≤ bound) few
        fun makes => makes.activeCount_le ?_ few)
    rintro id tenantId limit rfl
    exact bounded id tenantId limit List.mem_cons_self

end

end

/-- Whatever was asked of an empty registry, provided that statuses were only set to let a
pending execution run: every entry is pending, running or paused, and its channel tells to
pause just while it is paused.  Who was admitted and then cancelled hears of it.  Requests
are granted exactly where the status or the room for them is there.  Those that are granted
change the status and the signal of the execution that they are for and nothing else, those
that are refused change nothing, and a workflow never has more entries than its admissions
allow. -/
theorem run_agrees
    {operations : List Operation}
    (proper : IsProper {} operations) :
    let reached : Registry := run {} operations
    (∀ id entry, reached.entry? id = some entry →
      entry.status ∈ [.pending, .running, .paused] ∧
      reached.channels[entry.channel]?.map Channel.signal =
        some (if entry.status = .paused then .pause else .run)) ∧
    (∀ before between since id workflowId tenantId limit reason after listener,
      operations =
        before ++ .register id workflowId tenantId limit :: between ++ .cancel id reason :: since →
      (run {} before).register id workflowId tenantId limit = .ok (after, listener) →
      (∀ operation ∈ between, ¬ operation.Removes id) →
        (reached.latest listener).1 = .cancel reason) ∧
    (∀ id, (∃ after, reached.pause id = .ok after) ↔
      ∃ entry, reached.entry? id = some entry ∧ entry.status = .running) ∧
    (∀ id, (∃ after, reached.resume id = .ok after) ↔
      ∃ entry, reached.entry? id = some entry ∧ entry.status = .paused) ∧
    (∀ id reason, (∃ after, reached.cancel id reason = .ok after) ↔
      ∃ entry, reached.entry? id = some entry) ∧
    (∀ id workflowId tenantId limit,
      (∃ admission, reached.register id workflowId tenantId limit = .ok admission) ↔
        reached.entry? id = none ∧ reached.activeCount workflowId < limit) ∧
    (∀ id after, reached.pause id = .ok after → reached.Obeys id .pause after) ∧
    (∀ id after, reached.resume id = .ok after → reached.Obeys id .run after) ∧
    (∀ id reason after, reached.cancel id reason = .ok after →
      reached.Obeys id (.cancel reason) after) ∧
    (∀ operation error, operation.result reached = .error error →
      run {} (operations ++ [operation]) = reached) ∧
    ∀ workflowId bound,
      (∀ id tenantId limit, .register id workflowId tenantId limit ∈ operations → limit ≤ bound) →
        reached.activeCount workflowId ≤ bound := by
  intro reached
  have coherent : reached.Coherent := coherent_empty.run proper
  refine ⟨fun id entry known => ⟨?_, ?_⟩, ?_, fun id => exists_transition_iff,
    fun id => exists_transition_iff, fun id reason => coherent.exists_cancel_iff,
    fun id workflowId tenantId limit => exists_register_iff,
    fun id after granted => coherent.sound.obeys granted,
    fun id after granted => coherent.sound.obeys granted,
    fun id reason after granted => coherent.sound.obeys granted, ?_, ?_⟩
  · simpa using coherent.status known
  · have told := coherent.signal known
    have bounded := coherent.sound.bounded known
    rw [channel, List.getElem?_eq_getElem bounded] at told
    rw [List.getElem?_eq_getElem bounded, ← told]
    rfl
  · rintro before between since id workflowId tenantId limit reason after listener rfl admitted kept
    rw [List.append_assoc, isProper_append] at proper
    change ((run {} _).latest listener).1 = _
    rw [List.append_assoc, run_append]
    exact (coherent_empty.run proper.1).latest_of_cancel proper.2 admitted kept
  · intro operation error refused
    rw [run_append, run_cons, run_nil, perform_of_error refused]
  · intro workflowId bound bounded
    exact activeCount_run_le bounded (Nat.zero_le bound)

/-- A paused execution is cancelled, and another one is admitted in its place. -/
def replacement : List Operation :=
  [.register "run" "flow" "default" 1, .setStatus "run" .running, .pause "run",
    .register "other" "flow" "default" 1, .cancel "run" (some "operator"),
    .register "run" "flow" "default" 1]

/-- The execution that was cancelled does not take the other one's signals for its own, and
the other one may be cancelled in turn. -/
theorem replacement_heard :
    IsProper {} replacement ∧
    ((run {} replacement).latest { channel := 0 }).1 = .cancel (some "operator") ∧
    (∃ entry, Registry.entry? (run {} replacement) "run" = some entry ∧
      (run {} replacement).channels[entry.channel]?.map Channel.signal =
        some (if entry.status = .paused then .pause else .run)) ∧
    (∃ after, (run {} replacement).cancel "run" none = .ok after ∧
      (run {} replacement).Obeys "run" (.cancel none) after) ∧
    (run {} replacement).activeCount "flow" ≤ 1 := by
  have proper : IsProper {} replacement := by
    refine ⟨trivial, ⟨rfl, fun entry known => ?_⟩, trivial, trivial, trivial, trivial, trivial⟩
    cases known
    rfl
  obtain ⟨entries, cancelled, -, -, cancels, -, -, -, obeys, -, few⟩ := run_agrees proper
  obtain ⟨after, granted⟩ := (cancels "run" none).mpr ⟨_, rfl⟩
  refine ⟨proper, ?_, ⟨_, rfl, (entries "run" _ rfl).2⟩,
    ⟨after, granted, obeys "run" none after granted⟩, few "flow" 1 ?_⟩
  · refine cancelled [] [.setStatus "run" .running, .pause "run",
      .register "other" "flow" "default" 1] [.register "run" "flow" "default" 1] "run" "flow"
      "default" 1 (some "operator") _ _ rfl rfl ?_
    simp [Operation.Removes]
  · intro id tenantId limit member
    simp [replacement] at member
    omega

end Registry

/-- An engine performs the operations that its executions ask for, and keeps its registry
where it has to refuse one. -/
theorem World.registry_eq_perform
    {σ : Type}
    {world after : World σ}
    {operation : Registry.Operation}
    {request : Request}
    {answer : request.Answer}
    (responds : world.respond request = .answer answer after)
    (asked : operation.request? = some request) :
    after.registry = world.registry.perform operation :=
  (World.answers_of_respond responds).eq_perform asked

end WorkflowEngine
