import WorkflowEngine.Engine.World

/-!
# Sessions

One caller works with an engine: it runs executions, starts some in the
background, and waits.  Background executions go on only while the caller
waits.  Then they take their turns in the order in which they became ready, and
the clock moves on when all of them wait.  The caller goes first whenever its
own wait is over.
-/

namespace WorkflowEngine

/-- How far a background execution has come. -/
inductive Progress where
  /-- It can go on. -/
  | ready (program : Program Execution.Next)
  /-- It waits for the clock. -/
  | waiting (next : Program Execution.Next)
  /-- It waits for a signal. -/
  | listening (listener : Listener) (next : Registry.Heard → Program Execution.Next)
  | ended (result : Except EngineError ExecutionRecord)
  | broken

/-- An end to a wait: the time, and the number of the execution. -/
structure Timer where
  due : Nat
  job : Nat
deriving Repr, DecidableEq, Inhabited

/-- An engine with its background executions. -/
structure Session (σ : Type) where
  world : World σ
  jobs : List Progress := []
  /-- The executions that can go on, longest ready first. -/
  queue : List Nat := []
  /-- The waits, oldest first. -/
  timers : List Timer := []

namespace Session

variable {σ : Type} {α : Type}

/-- The most turns of background executions in one wait of the caller. -/
def turnLimit : Nat := 1000000

/-- How far a program gets on its own: to a value, or to something that is
pending. -/
inductive Stop (α : Type) where
  | done (value : α)
  | waiting (millis : Nat) (next : Program α)
  | listening (listener : Listener) (next : Registry.Heard → Program α)
  | broken

/-- Runs a program for as long as the world has answers. -/
def proceed : Program α → World σ → Stop α × World σ
  | .done value, world => (.done value, world)
  | .ask request next, world =>
    match request, world.respond request, next with
    | _, .answer value world, next => proceed (next value) world
    | _, .broken world, _ => (.broken, world)
    | .wait millis, .pending, next => (.waiting millis (next ()), world)
    | .listen listener, .pending, next => (.listening listener next, world)
    | _, .pending, _ => (.broken, world)

/-- Sets how far an execution has come. -/
def setJob (session : Session σ) (job : Nat) (progress : Progress) : Session σ :=
  { session with jobs := session.jobs.set job progress }

/-- Runs an execution until it ends or something is pending, in at most a number
of turns. -/
def runJob (job : Nat) : Nat → Program Execution.Next → Session σ → Session σ
  | 0, program, session => session.setJob job (.ready program)
  | turns + 1, program, session =>
    let (stop, world) := proceed program session.world
    let session := { session with world := world }
    match stop with
    | .done (.turn execution) => runJob job turns execution.turn session
    | .done (.ended record) => session.setJob job (.ended (.ok record))
    | .done (.refused error) => session.setJob job (.ended (.error error))
    | .waiting millis next =>
      { session.setJob job (.waiting next) with
        timers := session.timers ++ [⟨world.millis + millis, job⟩] }
    | .listening listener next => session.setJob job (.listening listener next)
    | .broken => session.setJob job .broken

/-- Whether an execution waits for a signal and there is one. -/
def canHear (session : Session σ) (job : Nat) : Bool :=
  match session.jobs[job]? with
  | some (.listening listener _) => (session.world.registry.heard? listener).isSome
  | _ => false

/-- Lines up the executions for which a signal has come. -/
def wakeListeners (session : Session σ) : Session σ :=
  let woken := (List.range session.jobs.length).filter fun job =>
    session.canHear job && !session.queue.contains job
  { session with queue := session.queue ++ woken }

/-- Lets an execution go on whose wait is over. -/
def resumeJob (session : Session σ) (job : Nat) : Session σ :=
  match session.jobs[job]? with
  | some (.ready program) | some (.waiting program) => runJob job turnLimit program session
  | some (.listening listener next) =>
    match session.world.registry.heard? listener with
    | some heard => runJob job turnLimit (next heard) session
    | none => session
  | _ => session

/-- Lets executions go on until all of them wait, in at most a number of
steps. -/
def drain : Nat → Session σ → Session σ
  | 0, session => session
  | steps + 1, session =>
    let session := session.wakeListeners
    match session.queue with
    | [] => session
    | job :: rest => drain steps ({ session with queue := rest }.resumeJob job)

/-- When the next wait of an execution ends. -/
def earliest? (session : Session σ) : Option Nat := (session.timers.map Timer.due).min?

/-- Moves the clock on and lines up the executions whose waits have ended. -/
def advanceTo (session : Session σ) (time : Nat) : Session σ :=
  let (due, later) := session.timers.partition (fun timer => timer.due ≤ time)
  { session with
    world := { session.world with millis := time }
    queue := session.queue ++ due.map Timer.job
    timers := later }

/-- Lets time pass until the caller's wait is over. -/
def passTo (time : Nat) : Nat → Session σ → Session σ
  | 0, session => session
  | steps + 1, session =>
    let session := session.drain turnLimit
    let next := min time (session.earliest?.getD time)
    if next = time then session.advanceTo time else passTo time steps (session.advanceTo next)

/-- Waits for a number of milliseconds. -/
def wait (session : Session σ) (millis : Nat) : Session σ :=
  if millis = 0 then session else session.passTo (session.world.millis + millis) turnLimit

/-- Lets time pass until something has happened; it may never happen. -/
def passUntil (happened : Session σ → Option α) : Nat → Session σ → Option (α × Session σ)
  | 0, _ => none
  | steps + 1, session =>
    let session := session.drain turnLimit
    match happened session with
    | some value => some (value, session)
    | none => session.earliest?.bind fun next => passUntil happened steps (session.advanceTo next)

/-- The answer to a request of the caller's own execution. -/
def answer (session : Session σ) (request : Request) : Option (request.Answer × Session σ) :=
  match request, session.world.respond request with
  | _, .answer value world => some (value, { session with world := world })
  | .wait millis, .pending => some ((), session.wait millis)
  | .listen listener, .pending =>
    passUntil (fun session => session.world.registry.heard? listener) turnLimit session
  | _, _ => none

/-- Runs a program to its end, unless a handler breaks down. -/
def complete : Program α → Session σ → Option (α × Session σ)
  | .done value, session => some (value, session)
  | .ask request next, session =>
    match session.answer request with
    | some (value, session) => complete (next value) session
    | none => none

/-- Runs an execution to its end in at most a number of turns. -/
def executeIn :
    Nat → Program Execution.Next → Session σ →
      Option (Except EngineError ExecutionRecord × Session σ)
  | 0, _, _ => none
  | turns + 1, program, session =>
    match session.complete program with
    | some (.turn execution, session) => executeIn turns execution.turn session
    | some (.ended record, session) => some (.ok record, session)
    | some (.refused error, session) => some (.error error, session)
    | none => none

/-- Runs an execution to its end. -/
def execute (session : Session σ) (program : Program Execution.Next) :
    Option (Except EngineError ExecutionRecord × Session σ) :=
  session.executeIn turnLimit program

/-- Starts an execution in the background, and gives its number. -/
def spawn (session : Session σ) (program : Program Execution.Next) : Nat × Session σ :=
  let job := session.jobs.length
  (job, { session with
    jobs := session.jobs ++ [.ready program]
    queue := session.queue ++ [job] })

/-- The result of a background execution that has come to an end one way or
another; inside, nothing if it has broken down. -/
def result? (session : Session σ) (job : Nat) :
    Option (Option (Except EngineError ExecutionRecord)) :=
  match session.jobs[job]? with
  | some (.ended result) => some (some result)
  | some .broken => some none
  | _ => none

/-- Waits for the end of a background execution, unless it breaks down. -/
def join (session : Session σ) (job : Nat) :
    Option (Except EngineError ExecutionRecord × Session σ) :=
  match session.result? job with
  | some result => result.map fun result => (result, session)
  | none =>
    match passUntil (fun session => session.result? job) turnLimit session with
    | some (some result, session) => some (result, session)
    | _ => none

end Session
end WorkflowEngine
