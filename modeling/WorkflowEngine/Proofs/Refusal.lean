import WorkflowEngine.Proofs.Registry
import WorkflowEngine.Proofs.Session

/-!
# Refused starts

An engine refuses an execution before its record is stored.  By then it may have
been admitted to the registry, which it leaves again, so a refusal leaves no trace.
-/

namespace WorkflowEngine

/-- To take away a key that was new undoes its insertion. -/
theorem Dict.erase_insert
    {α : Type}
    {key : String}
    {dict : Dict α}
    (absent : find? key dict = none)
    (value : α) :
    erase key (insert key value dict) = dict := by
  induction dict with
  | nil => simp [erase]
  | cons entry rest inductionHypothesis =>
    obtain ⟨other, old⟩ := entry
    rw [find?_cons] at absent
    split at absent
    next => cases absent
    next different =>
      unfold insert
      rw [if_neg different]
      split
      · simp [erase]
      · simp [erase, different, inductionHypothesis absent]

namespace Registry

variable
  {registry after : Registry}
  {id workflowId tenantId : String}
  {limit : Nat}
  {listener : Listener}

/-- A new name is admitted where there is room. -/
theorem register_of_room
    (fresh : registry.entry? id = none)
    (room : registry.activeCount workflowId < limit) :
    ∃ after listener, registry.register id workflowId tenantId limit = .ok (after, listener) := by
  unfold register
  simp [fresh, Nat.not_le.mpr room]

/-- Whoever leaves right after the admission takes everything along but the channel. -/
theorem unregister_of_register
    (admitted : registry.register id workflowId tenantId limit = .ok (after, listener)) :
    (after.unregister id).entries = registry.entries ∧
      registry.channels <+: (after.unregister id).channels := by
  have known := entry?_register admitted id
  obtain ⟨fresh, -, rfl⟩ := register_ok admitted
  rw [if_pos rfl] at known
  rw [unregister_of_known known]
  refine ⟨Dict.erase_insert fresh _, [({} : Channel).close], ?_⟩
  simp [List.modify_eq_set_getElem?]

end Registry

/-! ## Answers of an engine -/

namespace World

variable
  {σ : Type}
  {world : World σ}
  {id workflowId tenantId : String}
  {limit : Nat}
  {record : ExecutionRecord}

theorem respond_findWorkflow
    {answer : Option Workflow}
    (found : Dict.find? id world.workflows = answer) :
    world.respond (.findWorkflow id) = .answer answer world := by
  rw [← found]
  rfl

/-- A registry that refuses an execution stays as it is. -/
theorem respond_register_error
    {error : EngineError}
    (rejected : world.registry.register id workflowId tenantId limit = .error error) :
    world.respond (.register id workflowId tenantId limit) = .answer (.error error) world := by
  simp only [respond, rejected]

theorem respond_register_ok
    {registry : Registry}
    {listener : Listener}
    (admitted : world.registry.register id workflowId tenantId limit = .ok (registry, listener)) :
    world.respond (.register id workflowId tenantId limit) =
      .answer (.ok listener) { world with registry := registry } := by
  simp only [respond, admitted]

/-- A store that refuses a record stays as it is. -/
theorem respond_create_error
    {error : StoreError}
    (refused : world.store.create record = .error error) :
    world.respond (.create record) = .answer (.error error) world := by
  simp only [respond, changeStore, refused]

theorem respond_create_ok
    {store : Store}
    (stored : world.store.create record = .ok store) :
    world.respond (.create record) = .answer (.ok ()) { world with store := store } := by
  simp only [respond, changeStore, stored]

/-- Stores answer at once, and nothing about them is known to the registry. -/
theorem exists_respond_update (world : World σ) (record : ExecutionRecord) :
    ∃ result after, world.respond (.update record) = .answer result after ∧
      after.registry = world.registry := by
  refine ⟨_, (world.changeStore (Store.update record)).2, rfl, ?_⟩
  unfold changeStore
  split <;> rfl

end World

/-! ## Demands -/

/-- What a caller wants to have executed: a workflow that the engine knows, or one that
comes with the request. -/
inductive Demand where
  | known (id : String)
  | given (workflow : Workflow)

/-- The program that meets a demand. -/
def Demand.program (environment : Environment) (call : Call) :
    Demand → Program Execution.Next
  | .known id => Execution.startKnown environment id call
  | .given workflow => Execution.startGiven environment workflow call

namespace World

variable {σ : Type} (world : World σ)

/-- The engine has a workflow for a demand. -/
def Finds : Demand → Workflow → Prop
  | .known id, workflow => Dict.find? id world.workflows = some workflow
  | .given given, workflow => given.isValid = true ∧ workflow = given

/-- What the store says to the first record of an execution. -/
def creation (workflow : Workflow) (call : Call) : Except StoreError Store :=
  Store.create (Execution.created world.environment workflow call world.now) world.store

/-- Nothing stands in the way of an execution. -/
structure Admits (demand : Demand) (workflow : Workflow) (call : Call) : Prop where
  found : world.Finds demand workflow
  fresh : world.registry.entry? call.executionId = none
  room : world.registry.activeCount workflow.id < world.environment.concurrencyLimit workflow
  stored : ∃ store, world.creation workflow call = .ok store

/-- What stands in the way of an execution. -/
inductive Refuses (call : Call) : Demand → EngineError → Prop
  | unknown
      {id : String}
      (absent : Dict.find? id world.workflows = none) :
      Refuses call (.known id) (.workflowNotFound id)
  | invalid
      {workflow : Workflow}
      (invalid : workflow.isValid = false) :
      Refuses call (.given workflow) (.configuration workflow.problems)
  | duplicate
      {demand : Demand}
      {workflow : Workflow}
      (found : world.Finds demand workflow)
      (taken : (world.registry.entry? call.executionId).isSome) :
      Refuses call demand (.duplicateExecution call.executionId)
  | crowded
      {demand : Demand}
      {workflow : Workflow}
      (found : world.Finds demand workflow)
      (fresh : world.registry.entry? call.executionId = none)
      (full : world.environment.concurrencyLimit workflow ≤
        world.registry.activeCount workflow.id) :
      Refuses call demand
        (.concurrencyLimit workflow.id (world.registry.activeCount workflow.id)
          (world.environment.concurrencyLimit workflow))
  | unstored
      {demand : Demand}
      {workflow : Workflow}
      {error : StoreError}
      (found : world.Finds demand workflow)
      (fresh : world.registry.entry? call.executionId = none)
      (room : world.registry.activeCount workflow.id <
        world.environment.concurrencyLimit workflow)
      (refused : world.creation workflow call = .error error) :
      Refuses call demand (.store error)

/-- Two states of an engine do not differ in anything that can be asked for: workflows,
entries, documents and events. -/
structure Untouched (after : World σ) : Prop where
  workflows : after.workflows = world.workflows
  entries : after.registry.entries = world.registry.entries
  channels : world.registry.channels <+: after.registry.channels
  store : after.store = world.store
  events : after.events = world.events
  state : after.state = world.state

/-- Every workflow that the engine knows was found to be valid. -/
def Vetted : Prop := ∀ id workflow, Dict.find? id world.workflows = some workflow →
  workflow.isValid = true

variable {world} {demand : Demand} {workflow : Workflow} {call : Call}

/-- Whatever is executed was found to be valid. -/
theorem Vetted.isValid_of_finds
    (vetted : world.Vetted)
    (found : world.Finds demand workflow) :
    workflow.isValid = true := by
  cases demand with
  | known id => exact vetted id workflow found
  | given given =>
    obtain ⟨valid, rfl⟩ := found
    exact valid

/-- A workflow is found to be valid before the engine knows it. -/
theorem Vetted.registerWorkflow
    {after : World σ}
    (vetted : world.Vetted)
    (registered : world.registerWorkflow workflow = .ok after) :
    after.Vetted := by
  unfold World.registerWorkflow Workflow.validated at registered
  split at registered
  next valid =>
    cases registered
    intro id other found
    by_cases same : id = workflow.id
    · rw [same, Dict.find?_insert_self] at found
      cases found
      exact valid
    · rw [Dict.find?_insert_of_ne same] at found
      exact vetted id other found
  next => cases registered

/-- An engine that admits an execution has no reason to refuse it. -/
theorem Admits.not_refuses
    {error : EngineError}
    (admits : world.Admits demand workflow call) :
    ¬world.Refuses call demand error := by
  obtain ⟨found, fresh, room, stored⟩ := admits
  have only {other : Workflow} (finds : world.Finds demand other) : other = workflow := by
    cases demand with
    | known id => exact Option.some.inj (finds.symm.trans found)
    | given given => exact finds.2.trans found.2.symm
  intro refuses
  cases refuses with
  | unknown absent => exact absurd (absent.symm.trans found) nofun
  | invalid invalid => exact absurd (invalid.symm.trans found.1) nofun
  | duplicate _ taken => simp [fresh] at taken
  | crowded finds _ full =>
    obtain rfl := only finds
    omega
  | unstored finds _ _ refused =>
    obtain rfl := only finds
    obtain ⟨store, stored⟩ := stored
    cases stored.symm.trans refused

end World

/-! ## What becomes of a start -/

/-- An engine that answers at once. -/
inductive World.Answers {σ : Type} : World σ → History → World σ → Prop
  | nil (world : World σ) : Answers world [] world
  | cons
      {world middle last : World σ}
      {request : Request}
      {answer : request.Answer}
      {history : History}
      (responds : world.respond request = .answer answer middle)
      (rest : Answers middle history last) :
      Answers world (⟨request, answer⟩ :: history) last

namespace Execution

variable {environment : Environment} {workflow : Workflow} {call : Call}

/-- Every way in which a start may go is one of its histories. -/
theorem Starts.ends
    {history : History}
    {next : Next}
    (starts : Starts environment workflow call history next) :
    (start environment workflow call).Ends history next := by
  cases starts with
  | rejected clock error => exact .ask (.ask (.here _))
  | unstored clock listener now error => exact .ask (.ask (.ask (.ask (.ask (.here _)))))
  | admitted syncing =>
    have synced : ((opening environment workflow call _ _ _).sync >>=
        fun execution => pure (Next.turn execution)).Ends _ _ :=
      Program.Ends.bind syncing (.here _)
    rw [List.append_nil] at synced
    exact .ask (.ask (.ask (.ask (.ask synced))))

end Execution

namespace Session

variable
  {σ : Type}
  {session after : Session σ}
  {workflow : Workflow}
  {call : Call}
  {demand : Demand}
  {error : EngineError}

theorem answer_of_responds
    {request : Request}
    {answer : request.Answer}
    {world : World σ}
    (responds : session.world.respond request = .answer answer world) :
    session.answer request = some (answer, { session with world := world }) := by
  unfold Session.answer
  rw [responds]

/-- A session completes a program to which its world answers at once. -/
theorem complete_of_answers
    {α : Type}
    {program : Program α}
    {history : History}
    {value : α}
    {last : World σ}
    (ends : program.Ends history value)
    (answers : session.world.Answers history last) :
    session.complete program = some (value, { session with world := last }) := by
  generalize begun : session.world = first at answers
  induction answers generalizing program session with
  | nil world =>
    cases ends
    subst begun
    rfl
  | @cons first middle last request answer history responds rest inductionHypothesis =>
    subst begun
    cases ends with
    | @ask _ next _ _ _ continued =>
      unfold complete
      rw [answer_of_responds responds]
      exact inductionHypothesis continued rfl

/-! ### Refusals -/

/-- A start that the registry refuses ends there. -/
theorem complete_start_of_rejected
    (rejected : session.world.registry.register call.executionId workflow.id
      (Execution.contextFor session.world.environment workflow call).tenantId
      (session.world.environment.concurrencyLimit workflow) = .error error) :
    ∃ world,
      session.complete (Execution.start session.world.environment workflow call) =
        some (.refused error, { session with world := world }) ∧
      session.world.Untouched world := by
  have answers : session.world.Answers
      [⟨.clock, session.world.clock⟩,
        Execution.admission session.world.environment workflow call (.error error)]
      { session.world with looks := session.world.looks + 1 } :=
    .cons rfl (.cons (World.respond_register_error rejected) (.nil _))
  refine ⟨_, complete_of_answers (Execution.Starts.rejected _ error).ends answers, ?_⟩
  exact ⟨rfl, rfl, List.prefix_refl _, rfl, rfl, rfl⟩

/-- A start whose record cannot be stored is refused, and leaves the registry again. -/
theorem complete_start_of_unstored
    {registry : Registry}
    {listener : Listener}
    {error : StoreError}
    (admitted : session.world.registry.register call.executionId workflow.id
      (Execution.contextFor session.world.environment workflow call).tenantId
      (session.world.environment.concurrencyLimit workflow) = .ok (registry, listener))
    (refused : session.world.creation workflow call = .error error) :
    ∃ world,
      session.complete (Execution.start session.world.environment workflow call) =
        some (.refused (.store error), { session with world := world }) ∧
      session.world.Untouched world := by
  have answers : session.world.Answers
      [⟨.clock, session.world.clock⟩,
        Execution.admission session.world.environment workflow call (.ok listener),
        ⟨.now, session.world.now⟩,
        ⟨.create (Execution.created session.world.environment workflow call session.world.now),
          .error error⟩,
        ⟨.unregister call.executionId, ()⟩]
      { session.world with
        looks := session.world.looks + 1
        registry := registry.unregister call.executionId } :=
    .cons rfl (.cons (World.respond_register_ok admitted) (.cons rfl
      (.cons (World.respond_create_error refused) (.cons rfl (.nil _)))))
  obtain ⟨entries, channels⟩ := Registry.unregister_of_register admitted
  refine ⟨_, complete_of_answers (Execution.Starts.unstored _ listener _ error).ends answers, ?_⟩
  exact ⟨rfl, entries, channels, rfl, rfl, rfl⟩

/-- A start whose record is stored comes to its first turn, running. -/
theorem complete_start_of_stored
    {registry : Registry}
    {listener : Listener}
    {store : Store}
    (admitted : session.world.registry.register call.executionId workflow.id
      (Execution.contextFor session.world.environment workflow call).tenantId
      (session.world.environment.concurrencyLimit workflow) = .ok (registry, listener))
    (stored : session.world.creation workflow call = .ok store) :
    ∃ execution started,
      session.complete (Execution.start session.world.environment workflow call) =
        some (.turn execution, started) ∧
      started.world.registry.status? call.executionId = some .running := by
  let opening := Execution.opening session.world.environment workflow call listener
    session.world.clock session.world.now
  let running : World σ :=
    { session.world with
      looks := session.world.looks + 1
      registry := registry.setStatus call.executionId .running
      store := store }
  obtain ⟨result, last, updates, same⟩ :=
    running.exists_respond_update (opening.tallied running.now)
  have syncing : opening.sync.Ends
      [⟨.now, running.now⟩, ⟨.update (opening.tallied running.now), result⟩]
      { opening with record := opening.tallied running.now } := .ask (.ask (.here _))
  have answers : session.world.Answers
      ([⟨.clock, session.world.clock⟩,
        Execution.admission session.world.environment workflow call (.ok listener),
        ⟨.now, session.world.now⟩,
        ⟨.create (Execution.created session.world.environment workflow call session.world.now),
          .ok ()⟩,
        ⟨.setStatus call.executionId .running, ()⟩] ++
        [⟨.now, running.now⟩, ⟨.update (opening.tallied running.now), result⟩])
      last :=
    .cons rfl (.cons (World.respond_register_ok admitted) (.cons rfl
      (.cons (World.respond_create_ok stored) (.cons rfl (.cons rfl (.cons updates (.nil _)))))))
  refine ⟨_, _, complete_of_answers (Execution.Starts.admitted syncing).ends answers, ?_⟩
  show last.registry.status? call.executionId = some .running
  rw [same]
  show (registry.setStatus call.executionId .running).status? call.executionId = some .running
  unfold Registry.status?
  rw [Registry.entry?_setStatus, if_pos rfl, Registry.entry?_register admitted, if_pos rfl]
  rfl

/-- A workflow that the engine knows is started like one that comes with the request. -/
theorem complete_program_of_found (found : session.world.Finds demand workflow) :
    session.complete (demand.program session.world.environment call) =
      session.complete (Execution.start session.world.environment workflow call) := by
  cases demand with
  | known id =>
    show session.complete (.ask (.findWorkflow id) _) = _
    rw [complete, answer_of_responds (World.respond_findWorkflow found)]
    rfl
  | given given =>
    obtain ⟨valid, rfl⟩ := found
    simp only [Demand.program, Execution.startGiven, Workflow.validated, if_pos valid]

/-- An engine that has a reason to refuse an execution does so at once. -/
theorem complete_of_refuses (refuses : session.world.Refuses call demand error) :
    ∃ world,
      session.complete (demand.program session.world.environment call) =
        some (.refused error, { session with world := world }) ∧
      session.world.Untouched world := by
  have still : session.world.Untouched session.world :=
    ⟨rfl, rfl, List.prefix_refl _, rfl, rfl, rfl⟩
  cases refuses with
  | @unknown id absent =>
    refine ⟨session.world, ?_, still⟩
    show session.complete (.ask (.findWorkflow id) _) = _
    rw [complete, answer_of_responds (World.respond_findWorkflow absent)]
    rfl
  | @invalid workflow invalid =>
    refine ⟨session.world, ?_, still⟩
    simp only [Demand.program, Execution.startGiven, Workflow.validated, invalid]
    rfl
  | duplicate found taken =>
    rw [complete_program_of_found found]
    apply complete_start_of_rejected
    unfold Registry.register
    rw [if_pos taken]
  | crowded found fresh full =>
    rw [complete_program_of_found found]
    apply complete_start_of_rejected
    unfold Registry.register
    rw [if_neg (by simp [fresh])]
    exact if_pos full
  | unstored found fresh room refused =>
    rw [complete_program_of_found found]
    obtain ⟨registry, listener, admitted⟩ := Registry.register_of_room fresh room
    exact complete_start_of_unstored admitted refused

/-- Where nothing stands in the way an execution starts. -/
theorem complete_of_admits (admits : session.world.Admits demand workflow call) :
    ∃ execution started,
      session.complete (demand.program session.world.environment call) =
        some (.turn execution, started) ∧
      started.world.registry.status? call.executionId = some .running := by
  obtain ⟨found, fresh, room, store, stored⟩ := admits
  obtain ⟨registry, listener, admitted⟩ := Registry.register_of_room fresh room
  rw [complete_program_of_found found]
  exact complete_start_of_stored admitted stored

/-- Once it is started, an execution is not refused any more. -/
theorem ok_of_executeIn_turn
    {turns : Nat}
    {execution : Execution}
    {result : Except EngineError ExecutionRecord}
    (executed : session.executeIn turns execution.turn = some (result, after)) :
    ∃ record, result = .ok record := by
  induction turns generalizing session execution with
  | zero => cases executed
  | succ turns inductionHypothesis =>
    unfold executeIn at executed
    split at executed
    next later middle completed => exact inductionHypothesis executed
    next record middle completed =>
      cases executed
      exact ⟨record, rfl⟩
    next error middle completed =>
      obtain ⟨history, ends⟩ := ends_of_complete completed
      rcases Execution.ends_turn ends with ⟨_, _, impossible⟩ | ⟨_, _, _, _, _, _, _, _, impossible⟩
        <;> cases impossible
    next => cases executed

end Session

/-- Either there is a reason to refuse an execution, or there is none. -/
theorem World.refuses_or_admits
    {σ : Type}
    (world : World σ)
    (demand : Demand)
    (call : Call) :
    (∃ error, world.Refuses call demand error) ∨ ∃ workflow, world.Admits demand workflow call := by
  have of_found {workflow : Workflow} (found : world.Finds demand workflow) :
      (∃ error, world.Refuses call demand error) ∨
        ∃ workflow, world.Admits demand workflow call := by
    cases fresh : world.registry.entry? call.executionId with
    | some entry => exact .inl ⟨_, .duplicate found (by simp [fresh])⟩
    | none =>
      rcases Nat.lt_or_ge (world.registry.activeCount workflow.id)
        (world.environment.concurrencyLimit workflow) with room | full
      · cases stored : world.creation workflow call with
        | error error => exact .inl ⟨_, .unstored found fresh room stored⟩
        | ok store => exact .inr ⟨workflow, found, fresh, room, store, stored⟩
      · exact .inl ⟨_, .crowded found fresh full⟩
  cases demand with
  | known id =>
    cases found : Dict.find? id world.workflows with
    | none => exact .inl ⟨_, .unknown found⟩
    | some workflow => exact of_found found
  | given workflow =>
    cases valid : workflow.isValid with
    | false => exact .inl ⟨_, .invalid valid⟩
    | true => exact of_found ⟨valid, rfl⟩

/-- An engine starts an execution exactly when it has a valid workflow for it, its
identifier is free, its workflow is below its limit, and the store takes the record.
Otherwise it refuses for one of these reasons, and then everything is as it was before:
the workflows, the entries with their statuses, the documents and the events. -/
theorem Session.starts_or_unchanged
    {σ : Type}
    (session : Session σ)
    (demand : Demand)
    (call : Call) :
    ((∃ execution started,
        session.complete (demand.program session.world.environment call) =
          some (.turn execution, started) ∧
        started.world.registry.status? call.executionId = some .running) ↔
      ∃ workflow, session.world.Admits demand workflow call) ∧
    (∀ workflow, session.world.Vetted → session.world.Admits demand workflow call →
      workflow.isValid = true) ∧
    (∀ error, (∃ after, session.execute (demand.program session.world.environment call) =
        some (.error error, after)) ↔ session.world.Refuses call demand error) ∧
    ∀ error after,
      session.execute (demand.program session.world.environment call) =
        some (.error error, after) →
      after = { session with world := after.world } ∧ session.world.Untouched after.world := by
  have of_refuses {error : EngineError} (refuses : session.world.Refuses call demand error) :
      ∃ world, session.execute (demand.program session.world.environment call) =
          some (.error error, { session with world := world }) ∧
        session.world.Untouched world := by
    obtain ⟨world, completed, untouched⟩ := Session.complete_of_refuses refuses
    refine ⟨world, ?_, untouched⟩
    unfold Session.execute Session.turnLimit Session.executeIn
    rw [completed]
  have of_error {error : EngineError} {after : Session σ}
      (executed : session.execute (demand.program session.world.environment call) =
        some (.error error, after)) :
      session.world.Refuses call demand error := by
    rcases session.world.refuses_or_admits demand call with ⟨other, refuses⟩ | ⟨workflow, admits⟩
    · obtain ⟨world, refused, -⟩ := of_refuses refuses
      cases executed.symm.trans refused
      exact refuses
    · obtain ⟨execution, started, completed, -⟩ := Session.complete_of_admits admits
      unfold Session.execute Session.turnLimit Session.executeIn at executed
      rw [completed] at executed
      obtain ⟨record, impossible⟩ := Session.ok_of_executeIn_turn executed
      cases impossible
  refine ⟨⟨?_, ?_⟩, ?_, fun error => ⟨?_, fun refuses => ?_⟩, fun error after executed => ?_⟩
  · rintro ⟨execution, started, completed, -⟩
    rcases session.world.refuses_or_admits demand call with ⟨error, refuses⟩ | admits
    · obtain ⟨world, refused, -⟩ := Session.complete_of_refuses refuses
      cases completed.symm.trans refused
    · exact admits
  · rintro ⟨workflow, admits⟩
    exact Session.complete_of_admits admits
  · intro workflow vetted admits
    exact vetted.isValid_of_finds admits.found
  · rintro ⟨after, executed⟩
    exact of_error executed
  · obtain ⟨world, executed, -⟩ := of_refuses refuses
    exact ⟨_, executed⟩
  · obtain ⟨world, refused, untouched⟩ := of_refuses (of_error executed)
    cases executed.symm.trans refused
    exact ⟨rfl, untouched⟩

end WorkflowEngine
