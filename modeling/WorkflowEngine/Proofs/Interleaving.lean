import Mathlib.Data.List.Induction
import WorkflowEngine.Engine.World
import WorkflowEngine.Proofs.PhasedExecution
import WorkflowEngine.Proofs.Registry

/-!
# Interleavings

Any number of executions of one engine, and callers who pause, resume and cancel
them, meet in the registry.  One exchange of one execution takes place at a
time; between any two of them other executions and callers may act.  Whatever
is no business of the registry may be answered in any way.
-/

namespace WorkflowEngine

open Execution (Next Run Fits identityOf)

/-! ## Moves -/

/-- Whether it is up to the registry to answer a request. -/
def Request.isForRegistry : Request → Bool
  | .register .. | .setStatus .. | .unregister _ | .signal _ | .listen _ => true
  | _ => false

/-- How a request may be answered, and what then becomes of the registry. -/
inductive Registry.Answers (registry : Registry) :
    (request : Request) → request.Answer → Registry → Prop
  | admitted
      {id workflowId tenantId : String}
      {limit : Nat}
      {listener : Listener}
      {after : Registry}
      (admitted : registry.register id workflowId tenantId limit = .ok (after, listener)) :
      Answers registry (.register id workflowId tenantId limit) (.ok listener) after
  | rejected
      {id workflowId tenantId : String}
      {limit : Nat}
      {error : EngineError}
      (rejected : registry.register id workflowId tenantId limit = .error error) :
      Answers registry (.register id workflowId tenantId limit) (.error error) registry
  | setStatus (id : String) (status : ExecutionStatus) :
      Answers registry (.setStatus id status) () (registry.setStatus id status)
  | unregister (id : String) :
      Answers registry (.unregister id) () (registry.unregister id)
  | signal (listener : Listener) :
      Answers registry (.signal listener) (registry.latest listener) registry
  | listen
      {listener : Listener}
      {heard : Registry.Heard}
      (awake : registry.heard? listener = some heard) :
      Answers registry (.listen listener) heard registry
  | foreign
      {request : Request}
      (foreign : request.isForRegistry = false)
      (answer : request.Answer) :
      Answers registry request answer registry

section

variable {σ : Type} {world after : World σ}

/-- The store is no business of the registry. -/
theorem World.registry_changeStore
    (world : World σ)
    (change : Store → Except StoreError Store) :
    (world.changeStore change).2.registry = world.registry := by
  unfold changeStore
  split <;> rfl

/-- Neither are the handlers. -/
theorem World.registry_invoke (world : World σ) (invocation : Invocation) :
    (world.invoke invocation).2.registry = world.registry := by
  unfold invoke
  split <;> rfl

/-- What is no business of the registry leaves it alone. -/
theorem World.registry_of_respond
    {request : Request}
    {answer : request.Answer}
    (foreign : request.isForRegistry = false)
    (responds : world.respond request = .answer answer after) :
    after.registry = world.registry := by
  cases request with
  | create record =>
    cases responds
    exact world.registry_changeStore _
  | update record =>
    cases responds
    exact world.registry_changeStore _
  | append record =>
    cases responds
    exact world.registry_changeStore _
  | invoke invocation =>
    unfold respond at responds
    dsimp only at responds
    have kept := world.registry_invoke invocation
    split at responds
    next reply middle invoked =>
      cases responds
      rwa [invoked] at kept
    next => cases responds
  | wait millis =>
    unfold respond at responds
    dsimp only at responds
    split at responds
    next =>
      cases responds
      rfl
    next => cases responds
  | _ => first | (cases responds; rfl) | cases foreign

/-- A handler that breaks down leaves the registry alone. -/
theorem World.registry_of_broken
    {request : Request}
    (responds : world.respond request = .broken after) :
    after.registry = world.registry := by
  cases request with
  | invoke invocation =>
    unfold respond at responds
    dsimp only at responds
    have kept := world.registry_invoke invocation
    split at responds
    next => cases responds
    next middle invoked =>
      cases responds
      rwa [invoked] at kept
  | register | listen | wait =>
    unfold respond at responds
    dsimp only at responds
    split at responds <;> cases responds
  | _ => cases responds

/-- An engine answers requests as its registry does. -/
theorem World.answers_of_respond
    {request : Request}
    {answer : request.Answer}
    (responds : world.respond request = .answer answer after) :
    world.registry.Answers request answer after.registry := by
  cases request with
  | register id workflowId tenantId limit =>
    unfold respond at responds
    dsimp only at responds
    split at responds
    next registry listener admitted =>
      cases responds
      exact .admitted admitted
    next error rejected =>
      cases responds
      exact .rejected rejected
  | setStatus id status =>
    cases responds
    exact .setStatus id status
  | unregister id =>
    cases responds
    exact .unregister id
  | signal listener =>
    cases responds
    exact .signal listener
  | listen listener =>
    unfold respond at responds
    dsimp only at responds
    split at responds
    next heard awake =>
      cases responds
      exact .listen awake
    next => cases responds
  | _ =>
    rw [World.registry_of_respond rfl responds]
    exact .foreign rfl answer

end

/-- What a caller is granted by an engine is granted by its registry. -/
theorem World.registry_of_changeRegistry
    {σ : Type}
    {world after : World σ}
    {change : Registry → Except EngineError Registry}
    (granted : world.changeRegistry change = .ok after) :
    change world.registry = .ok after.registry := by
  unfold changeRegistry at granted
  cases changed : change world.registry with
  | error error =>
    rw [changed] at granted
    cases granted
  | ok registry =>
    rw [changed] at granted
    cases granted
    rfl

/-- What a caller wants to have executed. -/
structure Order where
  environment : Environment
  workflow : Workflow
  call : Call

/-- Who the execution of an order is. -/
def Order.identity (order : Order) : Identity := identityOf order.workflow order.call

/-- What happens in an engine. -/
inductive Move where
  /-- A caller has something executed. -/
  | call (order : Order)
  /-- An execution has a request answered. -/
  | exchange (job : Nat) (exchange : Exchange)
  /-- An execution takes another turn. -/
  | turn (job : Nat)
  /-- A caller's request about an execution is granted, and is heard on the
  channel of the execution. -/
  | grant (id : String) (channel : Nat) (signal : Signal)

/-- The executions of an engine with the registry in which they meet. -/
structure Fleet where
  registry : Registry := {}
  jobs : List (Program Next) := []

/-- What a move makes of an engine. -/
inductive Fleet.Moves (fleet : Fleet) : Move → Fleet → Prop
  | call (order : Order) :
      Moves fleet (.call order)
        { fleet with
          jobs := fleet.jobs ++ [Execution.start order.environment order.workflow order.call] }
  | exchange
      {job : Nat}
      {request : Request}
      {answer : request.Answer}
      {next : request.Answer → Program Next}
      {after : Registry}
      (asks : fleet.jobs[job]? = some (.ask request next))
      (answers : fleet.registry.Answers request answer after) :
      Moves fleet (.exchange job ⟨request, answer⟩)
        { registry := after, jobs := fleet.jobs.set job (next answer) }
  | turn
      {job : Nat}
      {execution : Execution}
      (turns : fleet.jobs[job]? = some (.done (.turn execution))) :
      Moves fleet (.turn job) { fleet with jobs := fleet.jobs.set job execution.turn }
  | grant
      {id : String}
      {entry : Entry}
      {signal : Signal}
      {after : Registry}
      (known : fleet.registry.entry? id = some entry)
      (granted : fleet.registry.grant id signal = .ok after) :
      Moves fleet (.grant id entry.channel signal) { fleet with registry := after }

/-- Moves take a new engine somewhere. -/
inductive Path : List Move → Fleet → Prop
  | start : Path [] {}
  | move
      {moves : List Move}
      {fleet after : Fleet}
      {move : Move}
      (path : Path moves fleet)
      (moved : fleet.Moves move after) :
      Path (moves ++ [move]) after

/-- The last move on a path comes after a shorter path. -/
theorem Path.of_concat
    {moves : List Move}
    {move : Move}
    {after : Fleet}
    (path : Path (moves ++ [move]) after) :
    ∃ fleet, Path moves fleet ∧ fleet.Moves move after := by
  generalize reached : moves ++ [move] = all at path
  cases path with
  | start => simp at reached
  | move path moved =>
    obtain ⟨rfl, rfl⟩ := List.append_singleton_inj.mp reached
    exact ⟨_, path, moved⟩

/-- The first moves of a path are a path. -/
theorem Path.of_append
    {first rest : List Move}
    {after : Fleet}
    (path : Path (first ++ rest) after) :
    ∃ fleet, Path first fleet := by
  induction rest using List.reverseRecOn generalizing after with
  | nil =>
    rw [List.append_nil] at path
    exact ⟨after, path⟩
  | append_singleton rest move inductionHypothesis =>
    rw [← List.append_assoc] at path
    obtain ⟨fleet, path, -⟩ := path.of_concat
    exact inductionHypothesis path

/-! ## What one execution sees -/

/-- The order that a caller gives in a move. -/
def Move.order? : Move → Option Order
  | .call order => some order
  | _ => none

/-- The exchange of an execution in a move. -/
def Move.exchange? (job : Nat) : Move → Option Exchange
  | .exchange other made => if other = job then some made else none
  | _ => none

/-- The orders given so far. -/
def orders (moves : List Move) : List Order := moves.filterMap Move.order?

/-- The exchanges of one execution. -/
def historyOf (job : Nat) (moves : List Move) : History := moves.filterMap (Move.exchange? job)

section

variable (job : Nat) (first rest : List Move) (move : Move)

@[simp] theorem orders_append : orders (first ++ rest) = orders first ++ orders rest :=
  List.filterMap_append

@[simp] theorem orders_singleton : orders [move] = move.order?.toList := by
  cases move <;> rfl

@[simp] theorem historyOf_nil : historyOf job [] = [] := rfl

@[simp] theorem historyOf_cons :
    historyOf job (move :: rest) = (move.exchange? job).toList ++ historyOf job rest := by
  cases shown : move.exchange? job <;> simp [historyOf, shown]

@[simp] theorem historyOf_append :
    historyOf job (first ++ rest) = historyOf job first ++ historyOf job rest :=
  List.filterMap_append

theorem historyOf_singleton : historyOf job [move] = (move.exchange? job).toList := by
  simp

end

/-- The executions of an engine are runs, and each of them has made the exchanges
that bear its number. -/
structure Fleet.Tracks (moves : List Move) (fleet : Fleet) : Prop where
  length_eq : fleet.jobs.length = (orders moves).length
  silent : ∀ {job}, fleet.jobs.length ≤ job → historyOf job moves = []
  runs : ∀ {job now}, fleet.jobs[job]? = some now → ∃ order, (orders moves)[job]? = some order ∧
    Run order.environment order.workflow order.call (historyOf job moves) now

namespace Fleet

/-- A new engine has no executions. -/
theorem tracks_start : Tracks [] {} where
  length_eq := rfl
  silent _ := rfl
  runs := nofun

/-- An execution that goes on is the only one to do so. -/
theorem Tracks.set
    {moves : List Move}
    {move : Move}
    {fleet : Fleet}
    {registry : Registry}
    {job : Nat}
    {before after : Program Next}
    (tracks : fleet.Tracks moves)
    (known : fleet.jobs[job]? = some before)
    (unordered : move.order? = none)
    (others : ∀ {other}, other ≠ job → move.exchange? other = none)
    (goesOn : ∀ {environment workflow call},
      Run environment workflow call (historyOf job moves) before →
      Run environment workflow call (historyOf job (moves ++ [move])) after) :
    Tracks (moves ++ [move]) { registry, jobs := fleet.jobs.set job after } := by
  have present : job < fleet.jobs.length := (List.getElem?_eq_some_iff.mp known).1
  have kept {other : Nat} (different : other ≠ job) :
      historyOf other (moves ++ [move]) = historyOf other moves := by
    simp [others different]
  constructor
  · simpa [unordered] using tracks.length_eq
  · intro other beyond
    have beyond : fleet.jobs.length ≤ other := by simpa using beyond
    rw [kept (Nat.ne_of_gt (Nat.lt_of_lt_of_le present beyond))]
    exact tracks.silent beyond
  · intro other now found
    simp only [orders_append, orders_singleton, unordered, Option.toList_none, List.append_nil]
    by_cases same : other = job
    · subst same
      simp only [List.getElem?_set_self present] at found
      cases found
      obtain ⟨order, ordered, run⟩ := tracks.runs known
      exact ⟨order, ordered, goesOn run⟩
    · simp only [List.getElem?_set_ne (Ne.symm same)] at found
      rw [kept same]
      exact tracks.runs found

/-- Whatever moves, every execution is a run with the exchanges that bear its number. -/
theorem Tracks.moves
    {moves : List Move}
    {move : Move}
    {fleet after : Fleet}
    (tracks : fleet.Tracks moves)
    (moved : fleet.Moves move after) :
    after.Tracks (moves ++ [move]) := by
  cases moved with
  | call order =>
    constructor
    · simp [Move.order?, tracks.length_eq]
    · intro job beyond
      have beyond : fleet.jobs.length ≤ job := by
        simp only [List.length_append] at beyond
        omega
      simpa [Move.exchange?] using tracks.silent beyond
    · intro job now found
      simp only [List.getElem?_append] at found
      simp only [orders_append, orders_singleton, Move.order?, Option.toList_some,
        historyOf_append, historyOf_singleton, Move.exchange?, Option.toList_none,
        List.append_nil, List.getElem?_append, ← tracks.length_eq]
      split at found
      next present =>
        rw [if_pos present]
        exact tracks.runs found
      next beyond =>
        rw [if_neg beyond]
        rw [List.getElem?_singleton] at found ⊢
        split at found
        next last =>
          cases found
          rw [if_pos last, tracks.silent (Nat.le_of_not_lt beyond)]
          exact ⟨order, rfl, .start (.here _)⟩
        next => cases found
  | @exchange job request answer next registry asks answers =>
    refine tracks.set asks rfl (fun different => if_neg (Ne.symm different)) fun run => ?_
    rw [historyOf_append, historyOf_singleton, Move.exchange?, if_pos rfl]
    exact run.extend (.ask (.here _))
  | @turn job execution turns =>
    refine tracks.set turns rfl (fun _ => rfl) fun run => ?_
    rw [historyOf_append, historyOf_singleton]
    exact .turn run (.here _)
  | grant =>
    constructor
    · simpa [Move.order?] using tracks.length_eq
    · exact fun beyond => by simpa [Move.exchange?] using tracks.silent beyond
    · exact fun known => by simpa [Move.exchange?, Move.order?] using tracks.runs known

end Fleet

/-- However executions and callers are interleaved, every execution is a run. -/
theorem Path.tracks
    {moves : List Move}
    {fleet : Fleet}
    (path : Path moves fleet) :
    fleet.Tracks moves := by
  induction path with
  | start => exact Fleet.tracks_start
  | move _ moved inductionHypothesis => exact inductionHypothesis.moves moved

/-- The execution of an order is a run of it. -/
theorem Path.run_of_ordered
    {moves : List Move}
    {fleet : Fleet}
    {job : Nat}
    {order : Order}
    {now : Program Next}
    (path : Path moves fleet)
    (ordered : (orders moves)[job]? = some order)
    (found : fleet.jobs[job]? = some now) :
    Run order.environment order.workflow order.call (historyOf job moves) now := by
  obtain ⟨other, known, run⟩ := path.tracks.runs found
  cases ordered.symm.trans known
  exact run

/-! ## Schedules -/

/-- What is to happen next in an engine with calm surroundings. -/
inductive Choice where
  | call (order : Order)
  /-- An execution goes on by one exchange, or to its next turn.  If it calls a
  handler, that gives a reply. -/
  | go (job : Nat) (reply : Reply)
  | grant (id : String) (signal : Signal)

/-- An execution goes on for a while, with handlers that succeed at once. -/
def Choice.goOn (job count : Nat) : List Choice :=
  List.replicate count (.go job ⟨.zero, .ok .succeed⟩)

/-- The answer of a registry in calm surroundings, if there is one. -/
def Registry.calmAnswer? (registry : Registry) (reply : Reply) :
    (request : Request) → Option (request.Answer × Registry)
  | .register id workflowId tenantId limit =>
    match registry.register id workflowId tenantId limit with
    | .ok (after, listener) => some (.ok listener, after)
    | .error error => some (.error error, registry)
  | .setStatus id status => some ((), registry.setStatus id status)
  | .unregister id => some ((), registry.unregister id)
  | .signal listener => some (registry.latest listener, registry)
  | .listen listener => (registry.heard? listener).map fun heard => (heard, registry)
  | .invoke _ => some (reply, registry)
  | request => some ((request.calmAnswer []).1, registry)

/-- Calm surroundings answer as a registry may. -/
theorem Registry.answers_of_calmAnswer?
    {registry after : Registry}
    {reply : Reply}
    {request : Request}
    {answer : request.Answer}
    (answered : registry.calmAnswer? reply request = some (answer, after)) :
    registry.Answers request answer after := by
  cases request with
  | register id workflowId tenantId limit =>
    unfold calmAnswer? at answered
    dsimp only at answered
    split at answered
    next admitted =>
      cases answered
      exact .admitted admitted
    next rejected =>
      cases answered
      exact .rejected rejected
  | setStatus id status =>
    cases answered
    exact .setStatus id status
  | unregister id =>
    cases answered
    exact .unregister id
  | signal listener =>
    cases answered
    exact .signal listener
  | listen listener =>
    obtain ⟨heard, awake, same⟩ := Option.map_eq_some_iff.mp answered
    cases same
    exact .listen awake
  | _ =>
    cases answered
    exact .foreign rfl _

namespace Fleet

/-- Makes a choice come true, if that is possible. -/
def choose? (fleet : Fleet) : Choice → Option (Move × Fleet)
  | .call order =>
    some (.call order,
      { fleet with
        jobs := fleet.jobs ++ [Execution.start order.environment order.workflow order.call] })
  | .go job reply =>
    match fleet.jobs[job]? with
    | some (.ask request next) =>
      (fleet.registry.calmAnswer? reply request).map fun (answer, after) =>
        (.exchange job ⟨request, answer⟩,
          { registry := after, jobs := fleet.jobs.set job (next answer) })
    | some (.done (.turn execution)) =>
      some (.turn job, { fleet with jobs := fleet.jobs.set job execution.turn })
    | _ => none
  | .grant id signal =>
    match fleet.registry.entry? id, fleet.registry.grant id signal with
    | some entry, .ok after =>
      some (.grant id entry.channel signal, { fleet with registry := after })
    | _, _ => none

/-- A choice that comes true is a move. -/
theorem moves_of_choose?
    {fleet after : Fleet}
    {choice : Choice}
    {move : Move}
    (chosen : fleet.choose? choice = some (move, after)) :
    fleet.Moves move after := by
  cases choice with
  | call order =>
    cases chosen
    exact .call order
  | go job reply =>
    unfold choose? at chosen
    dsimp only at chosen
    split at chosen
    next request next asks =>
      obtain ⟨⟨answer, after⟩, answered, same⟩ := Option.map_eq_some_iff.mp chosen
      cases same
      exact .exchange asks (Registry.answers_of_calmAnswer? answered)
    next execution turns =>
      cases chosen
      exact .turn turns
    next => cases chosen
  | grant id signal =>
    unfold choose? at chosen
    dsimp only at chosen
    split at chosen
    next entry after known granted =>
      cases chosen
      exact .grant known granted
    next => cases chosen

/-- Makes choices come true one after another, up to the first that cannot. -/
def follow : List Choice → Fleet → List Move × Fleet
  | [], fleet => ([], fleet)
  | choice :: rest, fleet =>
    match fleet.choose? choice with
    | some (move, after) => (move :: (follow rest after).1, (follow rest after).2)
    | none => ([], fleet)

end Fleet

/-- Choices that come true one after another lead along a path. -/
theorem Path.follow
    {moves : List Move}
    {fleet : Fleet}
    (path : Path moves fleet)
    (choices : List Choice) :
    Path (moves ++ (fleet.follow choices).1) (fleet.follow choices).2 := by
  induction choices generalizing moves fleet with
  | nil =>
    unfold Fleet.follow
    rwa [List.append_nil]
  | cons choice rest inductionHypothesis =>
    unfold Fleet.follow
    split
    next move after chosen =>
      rw [List.append_cons]
      exact inductionHypothesis (.move path (Fleet.moves_of_choose? chosen))
    next => rwa [List.append_nil]

end WorkflowEngine
