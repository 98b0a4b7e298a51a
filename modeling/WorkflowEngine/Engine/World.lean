import WorkflowEngine.Execution.Start
import WorkflowEngine.Store.Any

/-!
# Engines and their surroundings

Everything that the executions of one engine share: its handlers, workflows,
registry and store, the events made known so far, and the clock.  The world
answers the requests of executions one at a time.
-/

namespace WorkflowEngine

/-- How the clock for time limits relates to waiting. -/
inductive BudgetClock where
  /-- It stands still while executions wait. -/
  | still
  /-- It goes on while executions wait. -/
  | running
deriving Repr, DecidableEq, Inhabited

/-- An engine with its surroundings. -/
structure World (σ : Type) where
  settings : Settings := {}
  processors : Nat := 1
  actions : Actions σ
  /-- The state of the handlers. -/
  state : σ
  workflows : Dict Workflow := []
  registry : Registry := {}
  store : Store := .empty
  events : List Event := []
  /-- The milliseconds that have passed. -/
  millis : Nat := 0
  /-- The time on the calendar at the start. -/
  origin : Nat := 0
  budget : BudgetClock := .still
  /-- How often the clock for time limits was read. -/
  looks : Nat := 0

namespace World

variable {σ : Type}

/-- What executions know of the engine. -/
def environment (world : World σ) : Environment where
  settings := world.settings
  processors := world.processors
  handled := world.actions.map (fun entry => (entry.1, entry.2.supportsDryRun))

/-- The time on the calendar. -/
def now (world : World σ) : Timestamp := .ofMillis (world.origin + world.millis)

/-- How busy an engine is from one look at the clock to the next: a tenth of a
millisecond. -/
def lapse : Span := ⟨100000⟩

/-- The time that counts against limits. -/
def clock (world : World σ) : Span :=
  match world.budget with
  | .still => ⟨world.looks * lapse.nanos⟩
  | .running => ⟨world.millis * 1000000 + world.looks * lapse.nanos⟩

/-- The use of the machine, of which nothing is known. -/
def reading (world : World σ) : Reading := ⟨world.clock, ⟨0.0, 0⟩⟩

/-- How the world responds to a request. -/
inductive Response (σ : Type) (request : Request) where
  | answer (value : request.Answer) (world : World σ)
  /-- There is no answer yet. -/
  | pending
  /-- A handler has broken down, and there will be no answer. -/
  | broken (world : World σ)

/-- Makes a change to the store, if the store allows it. -/
def changeStore (world : World σ) (change : Store → Except StoreError Store) :
    Except StoreError Unit × World σ :=
  match change world.store with
  | .ok store => (.ok (), { world with store := store })
  | .error error => (.error error, world)

/-- Calls the handler for a step. -/
def invoke (world : World σ) (invocation : Invocation) : Option Reply × World σ :=
  match world.actions.find? invocation.step.type with
  | none => (some ⟨.zero, .error (.unavailable invocation.step.type)⟩, world)
  | some handler =>
    let (reply, state) := handler.perform invocation world.state
    (reply, { world with state := state })

/-- Responds to a request.  Waits are pending for as long as they last. -/
def respond (world : World σ) : (request : Request) → Response σ request
  | .findWorkflow id => .answer (Dict.find? id world.workflows) world
  | .register id workflowId tenantId limit =>
    match world.registry.register id workflowId tenantId limit with
    | .ok (registry, listener) => .answer (.ok listener) { world with registry := registry }
    | .error error => .answer (.error error) world
  | .setStatus id status =>
    .answer () { world with registry := world.registry.setStatus id status }
  | .unregister id => .answer () { world with registry := world.registry.unregister id }
  | .signal listener => .answer (world.registry.latest listener) world
  | .listen listener =>
    match world.registry.heard? listener with
    | some heard => .answer heard world
    | none => .pending
  | .create record =>
    let (result, world) := world.changeStore (Store.create record)
    .answer result world
  | .update record =>
    let (result, world) := world.changeStore (Store.update record)
    .answer result world
  | .append record =>
    let (result, world) := world.changeStore (Store.append record)
    .answer result world
  | .announce event => .answer () { world with events := world.events ++ [event] }
  | .now => .answer world.now world
  | .clock => .answer world.clock { world with looks := world.looks + 1 }
  | .reading => .answer world.reading world
  | .invoke invocation =>
    match world.invoke invocation with
    | (some reply, world) => .answer reply world
    | (none, world) => .broken world
  | .wait millis => if millis = 0 then .answer () world else .pending

/-- Makes a workflow known, in place of any earlier version; it has to be
valid. -/
def registerWorkflow (world : World σ) (workflow : Workflow) : Except EngineError (World σ) :=
  workflow.validated.map fun workflow =>
    { world with workflows := Dict.insert workflow.id workflow world.workflows }

/-- Makes a request to the registry, which changes nothing when refused. -/
def changeRegistry (world : World σ) (change : Registry → Except EngineError Registry) :
    Except EngineError (World σ) :=
  (change world.registry).map (fun registry => { world with registry := registry })

/-- Asks a running execution to pause before its next step. -/
def pause (world : World σ) (id : String) : Except EngineError (World σ) :=
  world.changeRegistry (·.pause id)

/-- Asks a paused execution to go on. -/
def resume (world : World σ) (id : String) : Except EngineError (World σ) :=
  world.changeRegistry (·.resume id)

/-- Asks an execution to stop before its next step. -/
def cancel (world : World σ) (id : String) (reason : Option String) :
    Except EngineError (World σ) :=
  world.changeRegistry (·.cancel id reason)

/-- The stored record of an execution. -/
def record? (world : World σ) (key : StoreKey) : Except EngineError (Option ExecutionRecord) :=
  (world.store.execution? key).mapError .store

/-- The stored trail of an execution. -/
def steps (world : World σ) (key : StoreKey) : Except EngineError (List StepRecord) :=
  (world.store.steps key).mapError .store

end World
end WorkflowEngine
