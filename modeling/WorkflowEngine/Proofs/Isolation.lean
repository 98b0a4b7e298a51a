import WorkflowEngine.Proofs.Ensemble

/-!
# Executions side by side

Executions with identifiers of their own do not get in each other's way.  Whatever an
execution asks of the world that they share, it is told what it would be told alone,
apart from times and readings of the machine.  So its record, its trail and its events
are those that it would have alone.
-/

namespace WorkflowEngine

open Execution (Next Run Fits)

/-! ## Stored trails -/

/-- Once a document is there, it has all attempts that come after it. -/
theorem StoreCall.Answered.exists_document
    {history : History}
    {document : Document}
    {last : Option Document}
    (answered : StoreCall.Answered (some document) history.storage last) :
    ∃ kept, last = some kept ∧ kept.steps = document.steps ++ history.attempts := by
  induction history generalizing document with
  | nil => exact ⟨document, answered, by simp⟩
  | cons exchange rest inductionHypothesis =>
    obtain ⟨request, answer⟩ := exchange
    rw [History.storage_cons] at answered
    cases request with
    | create record =>
      obtain ⟨-, answered⟩ := answered
      exact inductionHypothesis answered
    | update record =>
      obtain ⟨-, answered⟩ := answered
      exact @inductionHypothesis { document with execution := record } answered
    | append record =>
      obtain ⟨-, answered⟩ := answered
      obtain ⟨kept, same, steps⟩ :=
        @inductionHypothesis { document with steps := document.steps ++ [record] } answered
      exact ⟨kept, same, by simp [steps, Request.attempt?]⟩
    | _ => exact inductionHypothesis answered

namespace Execution

section

variable
  {environment : Environment}
  {workflow : Workflow}
  {call : Call}
  {history : History}

/-- A run that ends has found no document under its key, and has left all of its attempts
in one. -/
theorem Run.exists_document
    {record : ExecutionRecord}
    {document last : Option Document}
    (run : Run environment workflow call history (.done (.ended record)))
    (answered : StoreCall.Answered document history.storage last) :
    document = none ∧ ∃ kept, last = some kept ∧ kept.steps = history.attempts := by
  cases run.concludes with
  | last ends => cases starts_of_ends ends
  | turn ends =>
    cases starts_of_ends ends with
    | @admitted clock listener now synced _ syncing =>
      -- The first call of the store creates the document, and was accepted.
      rw [List.append_assoc] at answered
      obtain ⟨accepted, answered⟩ := answered
      cases document with
      | some document => cases accepted
      | none =>
        obtain ⟨kept, same, steps⟩ := @StoreCall.Answered.exists_document _
          { execution := created environment workflow call now } _ answered
        exact ⟨rfl, kept, same, steps⟩

theorem Run.identity_eq
    {record : ExecutionRecord}
    (run : Run environment workflow call history (.done (.ended record))) :
    record.identity = identityOf workflow call := by
  have fits := run.follows_phase.1
  change Fits _ _ _ at fits
  generalize history.phase = phase at fits
  cases phase with
  | closed _ stop => cases stop <;> exact fits.1
  | _ => cases fits

/-- A run that is refused was not admitted, unless there is a document under its key. -/
theorem Run.exists_rejected
    {error : EngineError}
    {last : Option Document}
    (run : Run environment workflow call history (.done (.refused error)))
    (answered : StoreCall.Answered none history.storage last) :
    ∃ id workflowId tenantId limit,
      ⟨.register id workflowId tenantId limit, .error error⟩ ∈ history := by
  cases starts_of_ends run.ends_of_refused with
  | rejected => exact ⟨_, _, _, _, List.mem_cons_of_mem _ List.mem_cons_self⟩
  | unstored => cases answered.1

end

end Execution

/-! ## One execution among others -/

/-- Where the document of an execution is stored. -/
def Identity.key (identity : Identity) : StoreKey := ⟨identity.tenantId, identity.executionId⟩

/-- What an execution stores, it stores under its key. -/
theorem Exchange.key_of_storage?
    {identity : Identity}
    {made : Exchange}
    {stored : StoreCall × StoreAnswer}
    (carries : made.request.Carries identity)
    (stores : made.storage? = some stored) :
    stored.1.key = identity.key := by
  obtain ⟨request, answer⟩ := made
  cases request with
  | create | update =>
    cases stores
    cases carries
    rfl
  | append =>
    cases stores
    exact congrArg₂ StoreKey.mk carries.2 carries.1
  | _ => cases stores

/-- Some execution of every workflow is admitted. -/
theorem Environment.concurrencyLimit_pos (environment : Environment) (workflow : Workflow) :
    0 < environment.concurrencyLimit workflow :=
  Nat.lt_of_lt_of_le Nat.one_pos (Nat.le_max_right _ 1)

/-- An execution has ended, or was refused. -/
def Program.IsOver : Program Next → Prop
  | .done (.ended _) | .done (.refused _) => True
  | _ => False

section

variable
  {moves : List Move}
  {fleet : Fleet}
  {job : Nat}
  {order : Order}

/-- Where identifiers differ, an execution has shown all that bears its name. -/
theorem Path.own_of_exchanges
    {α ι : Type}
    [DecidableEq ι]
    {shows : Exchange → Option α}
    {owner : α → ι}
    {name : Identity → ι}
    (path : Path moves fleet)
    (distinct : ((orders moves).map fun order => order.call.executionId).Nodup)
    (ordered : (orders moves)[job]? = some order)
    (bears : ∀ {identity made value}, made.request.Carries identity → shows made = some value →
      owner value = name identity)
    (tells : ∀ {first second}, name first = name second → first.executionId = second.executionId) :
    ((exchanges moves).filterMap shows).filter (fun value => owner value = name order.identity) =
      (historyOf job moves).filterMap shows := by
  unfold exchanges historyOf
  rw [List.filterMap_filterMap, List.filterMap_filterMap, List.filter_filterMap]
  apply List.filterMap_congr
  intro move member
  cases move with
  | exchange other made =>
    obtain ⟨caller, called, carries⟩ := path.carries (mem_historyOf.mpr member)
    have carries := carries made (mem_historyOf.mpr member)
    unfold Move.made? Move.exchange?
    dsimp only
    rw [Option.bind_some]
    by_cases same : other = job
    · subst same
      cases ordered.symm.trans called
      rw [if_pos rfl, Option.bind_some]
      cases shown : shows made with
      | none => rfl
      | some value => rw [Option.filter_some, if_pos (decide_eq_true (bears carries shown))]
    · rw [if_neg same, Option.bind_none]
      -- An exchange of another execution that bore this name would be one of the same order.
      refine Option.filter_eq_none_iff.mpr fun value shown own => same ?_
      have id : caller.call.executionId = order.call.executionId :=
        tells ((bears carries shown).symm.trans (of_decide_eq_true own))
      have bound : other < ((orders moves).map fun order => order.call.executionId).length := by
        rw [List.length_map]
        exact (List.getElem?_eq_some_iff.mp called).1
      refine (List.getElem?_inj bound distinct).mp ?_
      rw [List.getElem?_map, List.getElem?_map, called, ordered, Option.map_some,
        Option.map_some, id]
  | _ => rfl

/-- Where no execution may look at its signal, there is none in the registry. -/
theorem Path.entries_eq_nil_of_silent
    (path : Path moves fleet)
    (silent : ∀ job, (historyOf job moves).phase.isListening = false) :
    fleet.registry.entries = [] := by
  have absent (id : String) : fleet.registry.entry? id = none := by
    by_contra present
    obtain ⟨entry, known⟩ := Option.ne_none_iff_exists'.mp present
    obtain ⟨job, given⟩ := path.exists_owner known
    obtain ⟨listening, -⟩ := path.listens.owned given known
    rw [silent job] at listening
    cases listening
  cases entries : fleet.registry.entries with
  | nil => rfl
  | cons entry rest =>
    have found := absent entry.1
    unfold Registry.entry? at found
    rw [entries, Dict.find?_cons, if_pos rfl] at found
    cases found

/-- Once all executions are over, none of them is in the registry. -/
theorem Path.entries_eq_nil
    (path : Path moves fleet)
    (areOver : ∀ program ∈ fleet.jobs, program.IsOver) :
    fleet.registry.entries = [] := by
  refine path.entries_eq_nil_of_silent fun job => ?_
  rcases Nat.lt_or_ge job fleet.jobs.length with bound | beyond
  · obtain ⟨order, -, run⟩ := path.tracks.runs (List.getElem?_eq_getElem bound)
    have isOver := areOver _ (List.getElem_mem bound)
    have fits := run.follows_phase.1
    generalize (historyOf job moves).phase = phase at fits
    generalize fleet.jobs[job] = program at isOver fits
    cases program with
    | ask => cases isOver
    | done next =>
      change Fits _ phase next at fits
      cases next with
      | turn => cases isOver
      | refused | ended => cases phase <;> first | rfl | cases fits
  · rw [path.tracks.silent beyond]
    rfl

/-- An execution that is called alone is admitted. -/
theorem Path.not_rejected_of_alone
    {id workflowId tenantId : String}
    {limit : Nat}
    {error : EngineError}
    (path : Path moves fleet)
    (alone : orders moves = [order]) :
    ⟨.register id workflowId tenantId limit, .error error⟩ ∉ historyOf job moves := by
  intro rejected
  obtain ⟨before, after, rfl⟩ := List.append_of_mem (mem_historyOf.mp rejected)
  rw [List.append_cons] at path
  obtain ⟨last, path⟩ := path.of_append
  obtain ⟨fleet, earlier, moved⟩ := path.of_concat
  have few : (orders before).length ≤ 1 := by
    have counted := congrArg List.length alone
    rw [orders_append, List.length_append, List.length_singleton] at counted
    omega
  obtain ⟨caller, ordered, -, bound⟩ := earlier.order_of_register moved
  obtain ⟨allows, answers⟩ := earlier.of_exchange moved (if_pos rfl)
  have silent (other : Nat) : (historyOf other before).phase.isListening = false := by
    by_cases same : other = job
    · rw [same, allows.of_register]
      rfl
    · have present := (List.getElem?_eq_some_iff.mp ordered).1
      rw [earlier.tracks.silent (by rw [earlier.tracks.length_eq]; omega)]
      rfl
  have entries := earlier.entries_eq_nil_of_silent silent
  have positive : 0 < limit := bound ▸ Environment.concurrencyLimit_pos _ _
  dsimp only at answers
  generalize last.registry = registry at answers
  cases answers with
  | rejected rejected =>
    unfold Registry.register Registry.entry? Registry.activeCount at rejected
    simp [entries, Nat.ne_of_gt positive] at rejected
  | foreign foreign => cases foreign

end

/-! ## Isolation -/

/-- The events of an execution that are known in a world. -/
def World.eventsOf {σ : Type} (world : World σ) (id : String) : List Event :=
  world.events.filter fun event => event.executionId = id

namespace Ensemble

variable {σ : Type}

section

variable
  {world : World σ}
  {moves : List Move}
  {ensemble : Ensemble σ}
  {job : Nat}
  {order : Order}

/-- Among others that have other identifiers, the events of an execution are those that it
has made known. -/
theorem Path.eventsOf_eq
    (path : Path world moves ensemble)
    (fresh : world.registry = {})
    (distinct : ((orders moves).map fun order => order.call.executionId).Nodup)
    (ordered : (orders moves)[job]? = some order) :
    ensemble.world.eventsOf order.call.executionId =
      world.eventsOf order.call.executionId ++ (historyOf job moves).events := by
  unfold World.eventsOf
  rw [path.events_eq, List.filter_append]
  exact congrArg _ ((path.fleet fresh).own_of_exchanges distinct ordered
    (fun carries told => congrArg Identity.executionId (Exchange.identity_of_event? carries told))
    id)

/-- Among others that have other identifiers, an execution uses the store on its own. -/
theorem Path.answered_own
    {documents : MemoryStore}
    (path : Path world moves ensemble)
    (fresh : world.registry = {})
    (distinct : ((orders moves).map fun order => order.call.executionId).Nodup)
    (ordered : (orders moves)[job]? = some order)
    (memory : world.store = .memory documents) :
    ∃ kept, ensemble.world.store = .memory kept ∧
      StoreCall.Answered (documents.document? order.identity.key)
        (historyOf job moves).storage (kept.document? order.identity.key) := by
  obtain ⟨kept, holds, answered⟩ := path.answered memory
  refine ⟨kept, holds, ?_⟩
  rw [History.storage, ← (path.fleet fresh).own_of_exchanges distinct ordered
    Exchange.key_of_storage? (congrArg StoreKey.executionId)]
  exact answered order.identity.key

/-- Once an execution has ended, its trail is what it has added to it. -/
theorem Path.steps_eq
    {documents : MemoryStore}
    {record : ExecutionRecord}
    (path : Path world moves ensemble)
    (fresh : world.registry = {})
    (distinct : ((orders moves).map fun order => order.call.executionId).Nodup)
    (memory : world.store = .memory documents)
    (ended : ensemble.jobs[job]? = some (.done (.ended record))) :
    ensemble.world.steps record.key = .ok (historyOf job moves).attempts := by
  obtain ⟨order, ordered, run⟩ := (path.fleet fresh).tracks.runs ended
  obtain ⟨kept, holds, answered⟩ := path.answered_own fresh distinct ordered memory
  obtain ⟨-, document, found, steps⟩ := run.exists_document answered
  have key : record.key = order.identity.key := congrArg Identity.key run.identity_eq
  unfold World.steps Store.steps MemoryStore.steps
  rw [holds, key]
  dsimp only
  rw [found, Option.map_some, Option.getD_some, steps]
  rfl

/-- Where an execution has found no document, it is not refused when it is alone. -/
theorem Path.not_refused_of_alone
    {documents : MemoryStore}
    {error : EngineError}
    (path : Path world moves ensemble)
    (fresh : world.registry = {})
    (alone : orders moves = [order])
    (memory : world.store = .memory documents)
    (unstored : documents.document? order.identity.key = none) :
    ensemble.jobs[0]? ≠ some (.done (.refused error)) := by
  intro refused
  have ordered : (orders moves)[0]? = some order := by rw [alone, List.getElem?_cons_zero]
  have run := (path.fleet fresh).run_of_ordered ordered refused
  have distinct : ((orders moves).map fun order => order.call.executionId).Nodup := by
    rw [alone]
    exact List.nodup_singleton _
  obtain ⟨kept, -, answered⟩ := path.answered_own fresh distinct ordered memory
  rw [unstored] at answered
  obtain ⟨id, workflowId, tenantId, limit, rejected⟩ := run.exists_rejected answered
  exact (path.fleet fresh).not_rejected_of_alone alone rejected

end

/-- What two ensembles that began in one world have to tell of an execution that has ended
in both of them is the same, apart from times and readings of the machine. -/
structure SameStory
    (world : World σ)
    (first second : Ensemble σ)
    (firstHistory secondHistory : History)
    (firstRecord secondRecord : ExecutionRecord) : Prop where
  records : firstRecord.timeless = secondRecord.timeless
  attempts : firstHistory.attempts.map StepRecord.timeless =
    secondHistory.attempts.map StepRecord.timeless
  /-- Trails in memory are made up of the attempts. -/
  trails : ∀ documents, world.store = .memory documents →
    first.world.steps firstRecord.key = .ok firstHistory.attempts ∧
      second.world.steps secondRecord.key = .ok secondHistory.attempts
  events : (first.world.eventsOf firstRecord.executionId).map Event.timeless =
    (second.world.eventsOf secondRecord.executionId).map Event.timeless

/-- Executions that bear different identifiers do not interfere, however they are
interleaved, if handlers give results that depend on nothing but what they are called with.
One that ends in time has the story that it has alone, where it is not refused either.  Once
all are over, the registry is empty. -/
theorem Path.isolated
    {world : World σ}
    {moves : List Move}
    {ensemble : Ensemble σ}
    {results : Results}
    (path : Path world moves ensemble)
    (determined : world.Determines results)
    (fresh : world.registry = {})
    (distinct : ((orders moves).map fun order => order.call.executionId).Nodup) :
    (∀ job order record, (orders moves)[job]? = some order →
      ensemble.jobs[job]? = some (.done (.ended record)) →
      ∀ soloMoves solo, Path world soloMoves solo → orders soloMoves = [order] →
        (∀ documents error, world.store = .memory documents →
          solo.jobs[0]? ≠ some (.done (.refused error))) ∧
        ∀ soloRecord, solo.jobs[0]? = some (.done (.ended soloRecord)) →
          record.status ≠ .timeout → soloRecord.status ≠ .timeout →
          SameStory world ensemble solo (historyOf job moves) (historyOf 0 soloMoves) record
            soloRecord) ∧
    ((∀ program ∈ ensemble.jobs, program.IsOver) → ensemble.world.registry.entries = []) := by
  refine ⟨fun job order record ordered ended soloMoves solo soloPath alone => ?_,
    (path.fleet fresh).entries_eq_nil⟩
  have run := (path.fleet fresh).run_of_ordered ordered ended
  have soloOrdered : (orders soloMoves)[0]? = some order := by
    rw [alone, List.getElem?_cons_zero]
  have soloDistinct : ((orders soloMoves).map fun order => order.call.executionId).Nodup := by
    rw [alone]
    exact List.nodup_singleton _
  refine ⟨fun documents error memory => ?_, fun soloRecord soloEnded inTime soloInTime => ?_⟩
  · obtain ⟨_, -, answered⟩ := path.answered_own fresh distinct ordered memory
    exact soloPath.not_refused_of_alone fresh alone memory (run.exists_document answered).1
  · have soloRun := (soloPath.fleet fresh).run_of_ordered soloOrdered soloEnded
    obtain ⟨records, requests⟩ := run.determined soloRun (path.conforms determined fresh job)
      (soloPath.conforms determined fresh 0) inTime soloInTime
    have executionId : record.executionId = order.call.executionId :=
      congrArg Identity.executionId run.identity_eq
    have soloId : soloRecord.executionId = order.call.executionId :=
      congrArg Identity.executionId soloRun.identity_eq
    refine ⟨records, ?_, fun documents memory => ?_, ?_⟩
    · rw [History.timeless_attempts, History.timeless_attempts, requests]
    · exact ⟨path.steps_eq fresh distinct memory ended,
        soloPath.steps_eq fresh soloDistinct memory soloEnded⟩
    · rw [executionId, soloId, path.eventsOf_eq fresh distinct ordered,
        soloPath.eventsOf_eq fresh soloDistinct soloOrdered, List.map_append, List.map_append,
        History.timeless_events, History.timeless_events, requests]

/-- Names the execution that calls a handler. -/
def namingResult : Results := fun invocation =>
  .ok (StepResult.succeed.withOutput "caller" (.text invocation.context.executionId))

/-- A handler that does so.  It takes a millisecond longer each time. -/
def naming : Handler Nat where
  description := "naming"
  supportsDryRun := true
  perform invocation count :=
    (some ⟨.ofMillis count, namingResult invocation⟩, count + 1)

/-- A world with that handler for the only step of a workflow. -/
def namingWorld : World Nat where
  actions := [(.custom "work", naming)]
  state := 0
  workflows := [("single", Order.single.workflow)]

theorem determines_naming :
    namingWorld.Determines (namingWorld.actions.results fun _ => namingResult) :=
  World.determines_of_answers fun member _ _ _ replied => by
    cases List.mem_singleton.mp member
    cases replied
    rfl

/-- An order for the workflow. -/
def singleAs (executionId : String) : Order :=
  { Order.single with call := { executionId } }

theorem offers_singleAs (executionId : String) : namingWorld.Offers (singleAs executionId) where
  environment_eq := rfl
  offered := .inl ⟨"single", rfl⟩

/-- Two executions take turns at every exchange.  The second one has to wait for its handler,
which it would not have to do alone. -/
theorem isolated_second :
    ∃ moves ensemble record soloMoves solo soloRecord,
      Path namingWorld moves ensemble ∧
      orders moves = [singleAs "first", singleAs "second"] ∧
      ensemble.jobs[1]? = some (.done (.ended record)) ∧
      Path namingWorld soloMoves solo ∧
      orders soloMoves = [singleAs "second"] ∧
      solo.jobs[0]? = some (.done (.ended soloRecord)) ∧
      (historyOf 1 moves).attempts.map StepRecord.durationMs = [1] ∧
      (historyOf 0 soloMoves).attempts.map StepRecord.durationMs = [0] ∧
      SameStory namingWorld ensemble solo (historyOf 1 moves) (historyOf 0 soloMoves) record
        soloRecord ∧
      ensemble.world.registry.entries = [] := by
  have path := (Path.move (.move .start (.call (offers_singleAs "first")))
    (.call (offers_singleAs "second"))).follow (List.replicate 26 [0, 1]).flatten
  have soloPath := (Path.move .start (.call (offers_singleAs "second"))).follow
    (List.replicate 26 0)
  obtain ⟨moves, ensemble, record, firstRecord, path, ordered, jobs, inTime, took⟩ :
      ∃ moves ensemble record firstRecord, Path namingWorld moves ensemble ∧
        orders moves = [singleAs "first", singleAs "second"] ∧
        ensemble.jobs = [.done (.ended firstRecord), .done (.ended record)] ∧
        record.status = .completed ∧
        (historyOf 1 moves).attempts.map StepRecord.durationMs = [1] :=
    ⟨_, _, _, _, path, rfl, rfl, rfl, rfl⟩
  obtain ⟨soloMoves, solo, soloRecord, soloPath, soloOrdered, soloEnded, soloInTime, soloTook⟩ :
      ∃ moves ensemble record, Path namingWorld moves ensemble ∧
        orders moves = [singleAs "second"] ∧
        ensemble.jobs[0]? = some (.done (.ended record)) ∧
        record.status = .completed ∧
        (historyOf 0 moves).attempts.map StepRecord.durationMs = [0] :=
    ⟨_, _, _, soloPath, rfl, rfl, rfl, rfl⟩
  have distinct : ((orders moves).map fun order => order.call.executionId).Nodup := by
    rw [ordered]
    decide
  have ended : ensemble.jobs[1]? = some (.done (.ended record)) := by
    rw [jobs]
    rfl
  obtain ⟨alike, empty⟩ := path.isolated determines_naming rfl distinct
  have same := (alike 1 (singleAs "second") record (by rw [ordered]; rfl) ended soloMoves solo
    soloPath soloOrdered).2 soloRecord soloEnded (by rw [inTime]; decide)
    (by rw [soloInTime]; decide)
  refine ⟨moves, ensemble, record, soloMoves, solo, soloRecord, path, ordered, ended, soloPath,
    soloOrdered, soloEnded, took, soloTook, same, empty ?_⟩
  rw [jobs]
  exact List.forall_mem_cons.mpr ⟨trivial, List.forall_mem_singleton.mpr trivial⟩

end Ensemble
end WorkflowEngine
