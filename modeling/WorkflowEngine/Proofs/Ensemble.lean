import WorkflowEngine.Proofs.Capacity
import WorkflowEngine.Proofs.Determinacy
import WorkflowEngine.Proofs.Stores

/-!
# Executions in one world

The executions of an engine share its registry, its store, its handlers and all that is
made known.  Their exchanges are answered one at a time by the world as the others have
left it, and each of them may wait for as long as it likes.
-/

namespace WorkflowEngine

open Execution (Next Run)

/-! ## What an exchange changes -/

/-- The answer to a change of a store. -/
def StoreAnswer.ofResult : Except StoreError Unit → StoreAnswer
  | .ok _ => .done
  | .error error => .refused error

/-- The call of a store in an exchange, with its answer. -/
def Exchange.storage? : Exchange → Option (StoreCall × StoreAnswer)
  | ⟨.create record, answer⟩ => some (.create record, .ofResult answer)
  | ⟨.update record, answer⟩ => some (.update record, .ofResult answer)
  | ⟨.append record, answer⟩ => some (.append record, .ofResult answer)
  | _ => none

/-- Calls about one key were answered as the document under it has it, and have left
another one there. -/
def StoreCall.Answered :
    Option Document → List (StoreCall × StoreAnswer) → Option Document → Prop
  | document, [], last => last = document
  | document, (call, answer) :: rest, last =>
    answer = call.respond document ∧ Answered (call.revise document) rest last

/-- Calls are answered one part after the other. -/
theorem StoreCall.answered_append
    {document last : Option Document}
    {first rest : List (StoreCall × StoreAnswer)} :
    Answered document (first ++ rest) last ↔
      ∃ middle, Answered document first middle ∧ Answered middle rest last := by
  induction first generalizing document with
  | nil => simp [Answered]
  | cons head tail inductionHypothesis =>
    obtain ⟨call, answer⟩ := head
    simp only [List.cons_append, Answered, inductionHypothesis, and_assoc, exists_and_left]

namespace History

/-- The calls of a store in a history, with their answers. -/
def storage (history : History) : List (StoreCall × StoreAnswer) :=
  history.filterMap Exchange.storage?

variable (exchange : Exchange) (first rest : History)

@[simp] theorem storage_nil : storage [] = [] := rfl

@[simp] theorem storage_cons :
    storage (exchange :: rest) = exchange.storage?.toList ++ storage rest := by
  cases shown : exchange.storage? <;> simp [storage, shown]

@[simp] theorem storage_append : storage (first ++ rest) = storage first ++ storage rest :=
  List.filterMap_append

end History

/-- What an exchange makes of a world, apart from the registry. -/
structure Exchange.Leaves {σ : Type} (exchange : Exchange) (before after : World σ) : Prop where
  actions_eq : after.actions = before.actions
  events_eq : after.events = before.events ++ exchange.event?.toList
  stored : ∀ call answer, exchange.storage? = some (call, answer) →
    before.store.call call = (answer, after.store)
  store_eq : exchange.storage? = none → after.store = before.store

section

variable {σ : Type} {world after : World σ}

/-- An exchange that touches neither the store nor the events. -/
theorem Exchange.leaves_of_same
    {exchange : Exchange}
    (unstored : exchange.storage? = none)
    (silent : exchange.event? = none)
    (actions : after.actions = world.actions)
    (events : after.events = world.events)
    (store : after.store = world.store) :
    exchange.Leaves world after where
  actions_eq := actions
  events_eq := by rw [events, silent, Option.toList_none, List.append_nil]
  stored call answer called := by
    rw [unstored] at called
    cases called
  store_eq _ := store

/-- A change of the store is a call of it. -/
theorem Exchange.leaves_of_changeStore
    {exchange : Exchange}
    {change : Store → Except StoreError Store}
    {call : StoreCall}
    (stores : exchange.storage? = some (call, .ofResult (world.changeStore change).1))
    (silent : exchange.event? = none)
    (calls : ∀ store : Store, store.call call = store.changed (change store)) :
    exchange.Leaves world (world.changeStore change).2 := by
  unfold World.changeStore at stores ⊢
  split at stores
  next store accepted =>
    refine ⟨rfl, by simp [silent], fun other answer called => ?_, fun unstored => ?_⟩
    · cases stores.symm.trans called
      rw [calls, accepted]
      rfl
    · rw [unstored] at stores
      cases stores
  next error refused =>
    refine ⟨rfl, by simp [silent], fun other answer called => ?_, fun _ => rfl⟩
    cases stores.symm.trans called
    rw [calls, refused]
    rfl

/-- Handlers change nothing but their own state. -/
theorem World.kept_invoke (world : World σ) (invocation : Invocation) :
    (world.invoke invocation).2.actions = world.actions ∧
      (world.invoke invocation).2.events = world.events ∧
      (world.invoke invocation).2.store = world.store := by
  unfold invoke
  split <;> exact ⟨rfl, rfl, rfl⟩

/-- Whatever the world answers, it leaves what the exchange says. -/
theorem World.leaves_of_respond
    {request : Request}
    {answer : request.Answer}
    (responds : world.respond request = .answer answer after) :
    (Exchange.mk request answer).Leaves world after := by
  cases request with
  | create record =>
    cases responds
    exact @Exchange.leaves_of_changeStore _ _ ⟨.create record, _⟩ (Store.create record)
      (.create record) rfl rfl fun _ => rfl
  | update record =>
    cases responds
    exact @Exchange.leaves_of_changeStore _ _ ⟨.update record, _⟩ (Store.update record)
      (.update record) rfl rfl fun _ => rfl
  | append record =>
    cases responds
    exact @Exchange.leaves_of_changeStore _ _ ⟨.append record, _⟩ (Store.append record)
      (.append record) rfl rfl fun _ => rfl
  | announce event =>
    cases responds
    refine ⟨rfl, rfl, fun call answer called => ?_, fun _ => rfl⟩
    cases called
  | register =>
    unfold respond at responds
    dsimp only at responds
    split at responds <;>
    · cases responds
      exact Exchange.leaves_of_same rfl rfl rfl rfl rfl
  | listen =>
    unfold respond at responds
    dsimp only at responds
    split at responds
    next =>
      cases responds
      exact Exchange.leaves_of_same rfl rfl rfl rfl rfl
    next => cases responds
  | wait =>
    unfold respond at responds
    dsimp only at responds
    split at responds
    next =>
      cases responds
      exact Exchange.leaves_of_same rfl rfl rfl rfl rfl
    next => cases responds
  | invoke invocation =>
    have kept := world.kept_invoke invocation
    unfold respond at responds
    dsimp only at responds
    split at responds
    next reply middle invoked =>
      cases responds
      rw [invoked] at kept
      exact Exchange.leaves_of_same rfl rfl kept.1 kept.2.1 kept.2.2
    next => cases responds
  | _ =>
    cases responds
    exact Exchange.leaves_of_same rfl rfl rfl rfl rfl

end

/-- Handlers give results that depend on nothing but what they are called with, whatever
has happened to their state. -/
def World.Determines {σ : Type} (world : World σ) (results : Results) : Prop :=
  ∀ {other after : World σ} {invocation : Invocation} {reply : Reply},
    other.actions = world.actions → other.invoke invocation = (some reply, after) →
    reply.answer = results invocation

/-- What handlers give, where each of them has its answers. -/
def Actions.results {σ : Type} (actions : Actions σ) (answers : Handler σ → Results) : Results :=
  fun invocation =>
    match actions.find? invocation.step.type with
    | none => .error (.unavailable invocation.step.type)
    | some handler => answers handler invocation

/-- Handlers whose answers have nothing to do with their state determine their results. -/
theorem World.determines_of_answers
    {σ : Type}
    {world : World σ}
    {answers : Handler σ → Results}
    (answered : ∀ {entry}, entry ∈ world.actions → ∀ {invocation state reply},
      (entry.2.perform invocation state).1 = some reply →
        reply.answer = answers entry.2 invocation) :
    world.Determines (world.actions.results answers) := by
  intro other after invocation reply same invoked
  unfold Actions.results
  unfold World.invoke at invoked
  rw [same] at invoked
  cases found : world.actions.find? invocation.step.type with
  | none =>
    rw [found] at invoked
    cases invoked
    rfl
  | some handler =>
    rw [found] at invoked
    obtain ⟨before, rest, parts, -⟩ := List.lookup_eq_some_iff.mp found
    exact answered (parts ▸ List.mem_append_right _ List.mem_cons_self)
      (congrArg Prod.fst invoked)

/-! ## Ensembles -/

/-- An engine in its world, with its executions. -/
structure Ensemble (σ : Type) where
  world : World σ
  jobs : List (Program Next) := []

/-- A caller may have a workflow executed that the engine knows, or one that comes with
the call and is valid. -/
structure World.Offers {σ : Type} (world : World σ) (order : Order) : Prop where
  environment_eq : order.environment = world.environment
  offered : (∃ id, Dict.find? id world.workflows = some order.workflow) ∨
    ∃ workflow, Workflow.validated workflow = .ok order.workflow

/-- The exchange in a move. -/
def Move.made? : Move → Option Exchange
  | .exchange _ made => some made
  | _ => none

/-- The exchanges of all executions. -/
def exchanges (moves : List Move) : History := moves.filterMap Move.made?

section

variable (first rest : List Move) (move : Move)

@[simp] theorem exchanges_nil : exchanges [] = [] := rfl

@[simp] theorem exchanges_append :
    exchanges (first ++ rest) = exchanges first ++ exchanges rest :=
  List.filterMap_append

@[simp] theorem exchanges_singleton : exchanges [move] = move.made?.toList := by
  cases move <;> rfl

end

/-- A world at another time. -/
def World.atTime {σ : Type} (world : World σ) (time : Nat) : World σ :=
  { world with millis := time }

namespace Ensemble

variable {σ : Type}

/-- What a move makes of an ensemble. -/
inductive Moves (ensemble : Ensemble σ) : Move → Ensemble σ → Prop
  | call
      {order : Order}
      (offers : ensemble.world.Offers order) :
      Moves ensemble (.call order)
        { ensemble with
          jobs :=
            ensemble.jobs ++ [Execution.start order.environment order.workflow order.call] }
  /-- The world answers an execution at some time. -/
  | exchange
      {job time : Nat}
      {request : Request}
      {answer : request.Answer}
      {next : request.Answer → Program Next}
      {after : World σ}
      (asks : ensemble.jobs[job]? = some (.ask request next))
      (responds : (ensemble.world.atTime time).respond request = .answer answer after) :
      Moves ensemble (.exchange job ⟨request, answer⟩)
        { world := after, jobs := ensemble.jobs.set job (next answer) }
  /-- A wait is over. -/
  | wake
      {job millis : Nat}
      {next : Unit → Program Next}
      (asks : ensemble.jobs[job]? = some (.ask (.wait millis) next)) :
      Moves ensemble (.exchange job ⟨.wait millis, ()⟩)
        { ensemble with jobs := ensemble.jobs.set job (next ()) }
  | turn
      {job : Nat}
      {execution : Execution}
      (turns : ensemble.jobs[job]? = some (.done (.turn execution))) :
      Moves ensemble (.turn job)
        { ensemble with jobs := ensemble.jobs.set job execution.turn }

/-- Moves take an engine without executions somewhere. -/
inductive Path (world : World σ) : List Move → Ensemble σ → Prop
  | start : Path world [] { world }
  | move
      {moves : List Move}
      {ensemble after : Ensemble σ}
      {move : Move}
      (path : Path world moves ensemble)
      (moved : ensemble.Moves move after) :
      Path world (moves ++ [move]) after

/-- The executions of an ensemble with the registry in which they meet. -/
def fleet (ensemble : Ensemble σ) : Fleet where
  registry := ensemble.world.registry
  jobs := ensemble.jobs

section

variable
  {world : World σ}
  {moves : List Move}
  {move : Move}
  {ensemble after : Ensemble σ}

/-- As far as the registry is concerned, a world is any surroundings. -/
theorem Moves.fleet (moved : ensemble.Moves move after) :
    ensemble.fleet.Moves move after.fleet := by
  cases moved with
  | call => exact .call _
  | @exchange job time request answer next world asks responds =>
    have answers := World.answers_of_respond responds
    exact .exchange asks answers
  | @wake job millis next asks =>
    exact .exchange asks (@Registry.Answers.foreign _ (.wait millis) rfl ())
  | turn turns => exact .turn turns

/-- Seen from the registry, a path is one of an engine in any surroundings. -/
theorem Path.fleet
    (path : Path world moves ensemble)
    (fresh : world.registry = {}) :
    WorkflowEngine.Path moves ensemble.fleet := by
  induction path with
  | start =>
    unfold Ensemble.fleet
    rw [fresh]
    exact .start
  | move _ moved inductionHypothesis => exact .move inductionHypothesis moved.fleet

/-- Nobody is told anything in an ensemble. -/
theorem Moves.signal?_eq_none (moved : ensemble.Moves move after) (channel : Nat) :
    move.signal? channel = none := by
  cases moved <;> rfl

end

/-! ## What the world keeps -/

section

variable
  {world : World σ}
  {moves : List Move}
  {move : Move}
  {ensemble after : Ensemble σ}

/-- Only exchanges change the world. -/
theorem Moves.leaves (moved : ensemble.Moves move after) :
    (∃ job made, move = .exchange job made ∧ made.Leaves ensemble.world after.world) ∨
      move.made? = none ∧ after.world = ensemble.world := by
  cases moved with
  | call => exact .inr ⟨rfl, rfl⟩
  | turn => exact .inr ⟨rfl, rfl⟩
  | exchange asks responds =>
    have leaves := World.leaves_of_respond responds
    exact .inl ⟨_, _, rfl, leaves.actions_eq, leaves.events_eq, leaves.stored, leaves.store_eq⟩
  | wake => exact .inl ⟨_, _, rfl, Exchange.leaves_of_same rfl rfl rfl rfl rfl⟩

/-- Nothing that happens changes the handlers. -/
theorem Path.actions_eq (path : Path world moves ensemble) :
    ensemble.world.actions = world.actions := by
  induction path with
  | start => rfl
  | move _ moved inductionHypothesis =>
    rcases moved.leaves with ⟨_, _, _, leaves⟩ | ⟨-, same⟩
    · exact leaves.actions_eq.trans inductionHypothesis
    · rw [same]
      exact inductionHypothesis

/-- The world knows all events that were made known in it, in their order. -/
theorem Path.events_eq (path : Path world moves ensemble) :
    ensemble.world.events = world.events ++ (exchanges moves).events := by
  induction path with
  | start => simp
  | move _ moved inductionHypothesis =>
    rcases moved.leaves with ⟨_, made, rfl, leaves⟩ | ⟨unmade, same⟩
    · rw [leaves.events_eq, inductionHypothesis]
      simp [Move.made?]
    · rw [same, inductionHypothesis]
      simp [unmade]

/-- A store in memory that was there from the beginning answers the calls about every key
on their own. -/
theorem Path.answered
    {documents : MemoryStore}
    (path : Path world moves ensemble)
    (memory : world.store = .memory documents) :
    ∃ kept, ensemble.world.store = .memory kept ∧ ∀ key,
      StoreCall.Answered (documents.document? key)
        ((exchanges moves).storage.filter fun stored => stored.1.key = key)
        (kept.document? key) := by
  induction path with
  | start => exact ⟨documents, memory, fun _ => rfl⟩
  | @move moves ensemble after move path moved inductionHypothesis =>
    obtain ⟨kept, holds, answered⟩ := inductionHypothesis
    rcases moved.leaves with ⟨_, made, rfl, leaves⟩ | ⟨unmade, same⟩
    · rw [exchanges_append, exchanges_singleton, Move.made?, Option.toList_some]
      cases stores : made.storage? with
      | none =>
        refine ⟨kept, (leaves.store_eq stores).trans holds, fun key => ?_⟩
        simpa [stores] using answered key
      | some stored =>
        obtain ⟨call, answer⟩ := stored
        obtain ⟨later, responds, effect⟩ := MemoryStore.call_eq kept call
        have called := leaves.stored call answer stores
        rw [holds, responds] at called
        obtain ⟨rfl, store⟩ := Prod.mk.inj called
        -- The call shows under its own key, and leaves what is under all others.
        refine ⟨later, store.symm, fun key => ?_⟩
        rw [effect, History.storage_append, List.filter_append, StoreCall.answered_append]
        refine ⟨_, answered key, ?_⟩
        unfold StoreCall.effect
        by_cases own : call.key = key
        · subst own
          simp [stores, StoreCall.Answered]
        · simp [stores, StoreCall.Answered, own]
    · rw [same]
      refine ⟨kept, holds, fun key => ?_⟩
      simpa [unmade] using answered key

/-- Every channel is left at its first signal. -/
theorem Path.signal_eq_run
    (path : Path world moves ensemble)
    (fresh : world.registry = {})
    (channel : Nat) :
    (ensemble.world.registry.channel channel).signal = .run := by
  induction path with
  | start =>
    rw [fresh]
    rfl
  | move path moved inductionHypothesis =>
    have kept := moved.fleet.signal_eq (path.fleet fresh).listens.sound channel
    rw [moved.signal?_eq_none channel] at kept
    exact kept.trans inductionHypothesis

/-- What executions are told is what handlers give, and never to pause or to stop. -/
theorem Moves.conforms
    {results : Results}
    {job : Nat}
    {made : Exchange}
    (moved : ensemble.Moves (.exchange job made) after)
    (determined : ensemble.world.Determines results)
    (running : ∀ channel, (ensemble.world.registry.channel channel).signal = .run) :
    made.Conforms results := by
  cases moved with
  | wake => trivial
  | @exchange _ time request answer next world asks responds =>
    cases request with
    | signal listener =>
      cases responds
      exact running listener.channel
    | invoke invocation =>
      unfold World.respond at responds
      dsimp only at responds
      split at responds
      next reply middle invoked =>
        cases responds
        exact @determined (ensemble.world.atTime time) _ _ _ rfl invoked
      next => cases responds
    | _ => trivial

/-- Every execution has its handlers give their results, and hears no signal. -/
theorem Path.conforms
    {results : Results}
    (path : Path world moves ensemble)
    (determined : world.Determines results)
    (fresh : world.registry = {})
    (job : Nat) :
    (historyOf job moves).Conforms results := by
  induction path with
  | start => exact fun _ member => by cases member
  | @move moves ensemble after move path moved inductionHypothesis =>
    rw [historyOf_append, historyOf_singleton]
    refine List.forall_mem_append.mpr ⟨inductionHypothesis, fun made member => ?_⟩
    obtain rfl := Move.eq_of_exchange? (Option.mem_toList.mp member)
    have kept : ensemble.world.Determines results := fun same invoked =>
      determined (same.trans path.actions_eq) invoked
    exact moved.conforms kept (path.signal_eq_run fresh)

end

/-! ## Schedules -/

/-- Lets an execution go on by one exchange, or to its next turn, if it can.  It waits no
longer than it has to. -/
def goOn? (ensemble : Ensemble σ) (job : Nat) : Option (Move × Ensemble σ) :=
  match ensemble.jobs[job]? with
  | some (.ask (.wait millis) next) =>
    some (.exchange job ⟨.wait millis, ()⟩,
      { ensemble with jobs := ensemble.jobs.set job (next ()) })
  | some (.ask request next) =>
    match ensemble.world.respond request with
    | .answer answer after =>
      some (.exchange job ⟨request, answer⟩,
        { world := after, jobs := ensemble.jobs.set job (next answer) })
    | _ => none
  | some (.done (.turn execution)) =>
    some (.turn job, { ensemble with jobs := ensemble.jobs.set job execution.turn })
  | _ => none

/-- An execution that goes on makes a move. -/
theorem moves_of_goOn?
    {ensemble after : Ensemble σ}
    {job : Nat}
    {move : Move}
    (went : ensemble.goOn? job = some (move, after)) :
    ensemble.Moves move after := by
  unfold goOn? at went
  split at went
  next asks =>
    cases went
    exact .wake asks
  next request next _ asks =>
    split at went
    next answer world responds =>
      cases went
      exact @Moves.exchange _ _ _ ensemble.world.millis _ _ _ _ asks responds
    next => cases went
  next execution turns =>
    cases went
    exact .turn turns
  next => cases went

/-- Lets executions go on one after another, up to the first that cannot. -/
def follow : List Nat → Ensemble σ → List Move × Ensemble σ
  | [], ensemble => ([], ensemble)
  | job :: rest, ensemble =>
    match ensemble.goOn? job with
    | some (move, after) => (move :: (follow rest after).1, (follow rest after).2)
    | none => ([], ensemble)

/-- Executions that go on one after another lead along a path. -/
theorem Path.follow
    {world : World σ}
    {moves : List Move}
    {ensemble : Ensemble σ}
    (path : Path world moves ensemble)
    (jobs : List Nat) :
    Path world (moves ++ (ensemble.follow jobs).1) (ensemble.follow jobs).2 := by
  induction jobs generalizing moves ensemble with
  | nil =>
    unfold Ensemble.follow
    rwa [List.append_nil]
  | cons job rest inductionHypothesis =>
    unfold Ensemble.follow
    split
    next move after went =>
      rw [List.append_cons]
      exact inductionHypothesis (.move path (moves_of_goOn? went))
    next => rwa [List.append_nil]

end Ensemble
end WorkflowEngine
