import WorkflowEngine.Execution.Monitor
import WorkflowEngine.Record.Event
import WorkflowEngine.Registry

/-!
# Programs of executions

An execution acts on its surroundings only by requests: it looks at its
signal, stores a record, calls a handler, waits.  A program is the tree of its
requests, with one continuation for every possible answer.  Between two
requests of one program anything may happen to the surroundings.
-/

namespace WorkflowEngine

/-- What an execution asks of its surroundings. -/
inductive Request where
  /-- Finds a workflow. -/
  | findWorkflow (id : String)
  /-- Asks for admission to the registry. -/
  | register (id workflowId tenantId : String) (limit : Nat)
  /-- Sets the status in the registry. -/
  | setStatus (id : String) (status : ExecutionStatus)
  /-- Leaves the registry. -/
  | unregister (id : String)
  /-- Looks at the latest signal. -/
  | signal (listener : Listener)
  /-- Waits for a signal that was not seen yet. -/
  | listen (listener : Listener)
  /-- Stores a new record. -/
  | create (record : ExecutionRecord)
  /-- Brings the stored record up to date. -/
  | update (record : ExecutionRecord)
  /-- Adds an attempt to the trail. -/
  | append (record : StepRecord)
  /-- Makes an event known. -/
  | announce (event : Event)
  /-- Asks for the time on the calendar. -/
  | now
  /-- Asks for the time that counts against limits. -/
  | clock
  /-- Asks for the use of the machine. -/
  | reading
  /-- Calls a handler. -/
  | invoke (invocation : Invocation)
  /-- Waits for a number of milliseconds. -/
  | wait (millis : Nat)
deriving Inhabited

/-- The type of the answers to a request. -/
def Request.Answer : Request → Type
  | .findWorkflow _ => Option Workflow
  | .register .. => Except EngineError Listener
  | .signal _ => Signal × Listener
  | .listen _ => Registry.Heard
  | .create _ | .update _ | .append _ => Except StoreError Unit
  | .now => Timestamp
  | .clock => Span
  | .reading => Reading
  | .invoke _ => Reply
  | .setStatus .. | .unregister _ | .announce _ | .wait _ => Unit

/-- A tree of requests that ends in values. -/
inductive Program (α : Type) where
  | done (value : α)
  | ask (request : Request) (next : request.Answer → Program α)

namespace Program

variable {α β : Type}

/-- Goes on with another program at every end. -/
def bind (program : Program α) (next : α → Program β) : Program β :=
  match program with
  | .done value => next value
  | .ask request rest => .ask request (fun answer => (rest answer).bind next)

instance : Monad Program where
  pure := .done
  bind := bind

/-- Asks for something and ends in the answer. -/
def request (request : Request) : Program request.Answer := .ask request .done

@[simp] theorem pure_def (value : α) : (pure value : Program α) = .done value := rfl

@[simp] theorem done_bind (value : α) (next : α → Program β) :
    (Program.done value >>= next) = next value := rfl

@[simp] theorem ask_bind
    (request : Request) (rest : request.Answer → Program α) (next : α → Program β) :
    (Program.ask request rest >>= next) = .ask request (fun answer => rest answer >>= next) := rfl

end Program
end WorkflowEngine
