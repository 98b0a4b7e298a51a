import WorkflowEngine.Dict
import WorkflowEngine.Engine.Error

/-!
# Registry of executions

The executions that are under way, and the signals by which they are paused,
resumed and cancelled.  Every execution listens to a channel that keeps only
the latest signal; a listener remembers which version of it it has seen.
-/

namespace WorkflowEngine

/-- What an execution is told. -/
inductive Signal where
  | run
  | pause
  | cancel (reason : Option String)
deriving Repr, DecidableEq, Inhabited

/-- A channel, which is closed once nobody can send on it any more. -/
structure Channel where
  signal : Signal := .run
  version : Nat := 0
  closed : Bool := false
deriving Repr, DecidableEq, Inhabited

/-- Replaces the signal of a channel. -/
def Channel.send (channel : Channel) (signal : Signal) : Channel :=
  { channel with signal := signal, version := channel.version + 1 }

/-- Closes a channel. -/
def Channel.close (channel : Channel) : Channel := { channel with closed := true }

/-- One that listens to a channel. -/
structure Listener where
  channel : Nat
  /-- The version of the signal that it has seen. -/
  seen : Nat := 0
deriving Repr, DecidableEq, Inhabited

/-- An execution that is under way. -/
structure Entry where
  workflowId : String
  tenantId : String
  status : ExecutionStatus := .pending
  /-- The number of its channel. -/
  channel : Nat
deriving Repr, DecidableEq, Inhabited

/-- The executions under way by identifier, and all channels ever opened. -/
structure Registry where
  entries : Dict Entry := []
  channels : List Channel := []
deriving Repr, Inhabited

/-- The value of an entry with its identifier. -/
def Entry.toJson (id : String) (entry : Entry) : Json :=
  .ofEntries
    [("executionId", .text id),
     ("workflowId", .text entry.workflowId),
     ("tenantId", .text entry.tenantId),
     ("status", .text entry.status.name)]

namespace Registry

/-- The entry of an execution. -/
def entry? (registry : Registry) (id : String) : Option Entry := Dict.find? id registry.entries

/-- The status of an execution. -/
def status? (registry : Registry) (id : String) : Option ExecutionStatus :=
  (registry.entry? id).map Entry.status

/-- The number of executions of a workflow. -/
def activeCount (registry : Registry) (workflowId : String) : Nat :=
  registry.entries.countP (fun entry => entry.2.workflowId == workflowId)

/-- Sends a signal on a channel. -/
def send (registry : Registry) (channel : Nat) (signal : Signal) : Registry :=
  { registry with channels := registry.channels.modify channel (·.send signal) }

/-- Admits an execution, unless its identifier is in use or its workflow has as
many executions as it may have.  The execution gets a channel of its own. -/
def register
    (registry : Registry)
    (id workflowId tenantId : String)
    (limit : Nat) : Except EngineError (Registry × Listener) :=
  let active := registry.activeCount workflowId
  if (registry.entry? id).isSome then .error (.duplicateExecution id)
  else if limit ≤ active then .error (.concurrencyLimit workflowId active limit)
  else
    let channel := registry.channels.length
    .ok
      ({ entries := Dict.insert id { workflowId, tenantId, channel } registry.entries
         channels := registry.channels ++ [{}] },
       { channel })

/-- Sets the status of an execution, if it is under way. -/
def setStatus (registry : Registry) (id : String) (status : ExecutionStatus) : Registry :=
  { registry with
    entries := Dict.modify id (fun entry => { entry with status := status }) registry.entries }

/-- Removes an execution, if it is there, and closes its channel. -/
def unregister (registry : Registry) (id : String) : Registry :=
  match registry.entry? id with
  | none => registry
  | some entry =>
    { entries := Dict.erase id registry.entries
      channels := registry.channels.modify entry.channel Channel.close }

/-- Moves an execution from one status to another and tells it. -/
def transition
    (registry : Registry)
    (id : String)
    (action : LifecycleAction)
    (source target : ExecutionStatus)
    (signal : Signal) : Except EngineError Registry :=
  match registry.entry? id with
  | none => .error (.executionNotFound id)
  | some entry =>
    if entry.status = source then .ok ((registry.setStatus id target).send entry.channel signal)
    else .error (.invalidTransition id action entry.status)

/-- Asks a running execution to pause. -/
def pause (registry : Registry) (id : String) : Except EngineError Registry :=
  registry.transition id .pause .running .paused .pause

/-- Asks a paused execution to go on. -/
def resume (registry : Registry) (id : String) : Except EngineError Registry :=
  registry.transition id .resume .paused .running .run

/-- Asks an execution that has not ended to stop, and forgets it. -/
def cancel (registry : Registry) (id : String) (reason : Option String) :
    Except EngineError Registry :=
  match registry.entry? id with
  | none => .error (.executionNotFound id)
  | some entry =>
    if entry.status.isTerminal then .error (.invalidTransition id .cancel entry.status)
    else .ok ((registry.send entry.channel (.cancel reason)).unregister id)

/-- The channel of a listener. -/
def channelOf (registry : Registry) (listener : Listener) : Channel :=
  registry.channels[listener.channel]?.getD {}

/-- The latest signal, which the listener has then seen. -/
def latest (registry : Registry) (listener : Listener) : Signal × Listener :=
  let channel := registry.channelOf listener
  (channel.signal, { listener with seen := channel.version })

/-- What a listener wakes up for. -/
inductive Heard where
  /-- There is a signal that it has not seen. -/
  | news (signal : Signal) (listener : Listener)
  /-- No signal will come any more; the last one was this. -/
  | silence (last : Signal)
deriving Repr, DecidableEq, Inhabited

/-- What wakes a listener, if anything does. -/
def heard? (registry : Registry) (listener : Listener) : Option Heard :=
  let channel := registry.channelOf listener
  if channel.version ≠ listener.seen then
    some (.news channel.signal { listener with seen := channel.version })
  else if channel.closed then some (.silence channel.signal)
  else none

end Registry
end WorkflowEngine
