import WorkflowEngine.Proofs.History

/-!
# Phases of executions

What the surroundings of an execution can tell about it.  Its exchanges alone
determine its phase, and the phase says what it may ask for next.  Whatever it
says of itself in a request, it says of one identity.
-/

namespace WorkflowEngine

/-- Who an execution is, apart from its channel. -/
structure Identity where
  executionId : String
  workflowId : String
  tenantId : String
deriving DecidableEq

/-- The identity in a context. -/
def Context.identity (context : Context) : Identity where
  executionId := context.executionId
  workflowId := context.workflowId
  tenantId := context.tenantId

/-- The identity in a record. -/
def ExecutionRecord.identity (record : ExecutionRecord) : Identity where
  executionId := record.executionId
  workflowId := record.workflowId
  tenantId := record.tenantId

/-- The identity in an announcement. -/
def Event.identity (event : Event) : Identity where
  executionId := event.executionId
  workflowId := event.workflowId
  tenantId := event.tenantId

/-- A record says that its execution was cancelled, and why. -/
structure ExecutionRecord.IsCancelled (record : ExecutionRecord) (reason : Option String) :
    Prop where
  status : record.status = .cancelled
  code : record.errorCode = some (EngineError.cancelled reason).code
  message : record.errorMessage = some (EngineError.cancelled reason).message
  failedStep : record.failedStep = none

/-- How far an execution has come. -/
inductive Phase where
  /-- It was not admitted yet. -/
  | outside
  /-- It will not be admitted, or it was dropped before its record was stored. -/
  | refused
  /-- It was admitted, and its record is not stored yet. -/
  | entering (channel : Nat)
  /-- It looks at its signal before anything else. -/
  | between (channel : Nat)
  /-- Its latest look has let a step begin. -/
  | stepping (channel : Nat)
  /-- Its latest look has told it to stop. -/
  | stopping (channel : Nat) (reason : Option String)
  /-- It has left the registry, on a reason to stop or without one. -/
  | left (channel : Nat) (stop : Option (Option String))
  /-- Its end was made known. -/
  | closed (channel : Nat) (stop : Option (Option String))
deriving DecidableEq

/-- Where a signal takes an execution. -/
def Phase.ofSignal (channel : Nat) : Signal → Phase
  | .run => .stepping channel
  | .pause => .between channel
  | .cancel reason => .stopping channel reason

/-- Where an exchange takes an execution if it is a look at its signal. -/
def Exchange.look? : Exchange → Option Phase
  | ⟨.signal _, (signal, listener)⟩ => some (.ofSignal listener.channel signal)
  | ⟨.listen _, .news signal listener⟩ => some (.ofSignal listener.channel signal)
  | ⟨.listen listener, .silence (.cancel reason)⟩ => some (.stopping listener.channel reason)
  | ⟨.listen listener, .silence _⟩ => some (.stopping listener.channel none)
  | _ => none

namespace Request

/-- Who looks at its signal in a request. -/
def listener? : Request → Option Listener
  | .signal listener | .listen listener => some listener
  | _ => none

/-- Whether a request only keeps others informed while an execution goes on. -/
def isUpkeep : Request → Bool
  | .now | .update _ => true
  | .announce event => !event.kind.isTerminal
  | _ => false

/-- What a request says of its execution fits an identity. -/
def Carries (identity : Identity) : Request → Prop
  | .register id workflowId tenantId _ => (⟨id, workflowId, tenantId⟩ : Identity) = identity
  | .setStatus id _ | .unregister id => id = identity.executionId
  | .create record | .update record => record.identity = identity
  | .append record =>
    record.executionId = identity.executionId ∧ record.tenantId = identity.tenantId
  | .announce event => event.identity = identity
  | _ => True

end Request

namespace Phase

/-- The phase after an exchange.  A look decides alone. -/
def after (phase : Phase) (exchange : Exchange) : Phase :=
  match exchange.look? with
  | some next => next
  | none =>
    match phase, exchange with
    | .outside, ⟨.register .., .ok listener⟩ => .entering listener.channel
    | .outside, ⟨.register .., .error _⟩ => .refused
    | .entering channel, ⟨.setStatus .., _⟩ => .between channel
    | .entering _, ⟨.unregister _, _⟩ => .refused
    | .stepping channel, ⟨.unregister _, _⟩ => .left channel none
    | .stopping channel reason, ⟨.unregister _, _⟩ => .left channel (some reason)
    | .left channel stop, ⟨.announce _, _⟩ => .closed channel stop
    | phase, _ => phase

/-- What an execution may ask for. -/
def Allows : Phase → Request → Prop
  | .outside, .clock | .outside, .register .. => True
  | .entering _, .now | .entering _, .create _ | .entering _, .unregister _ => True
  | .entering _, .setStatus _ status => status = .running
  | .between channel, .signal listener | .between channel, .listen listener =>
    listener.channel = channel
  | .between _, request => request.isUpkeep = true
  | .stepping channel, .signal listener | .stepping channel, .listen listener =>
    listener.channel = channel
  | .stepping _, .unregister _ => True
  | .stepping _, request => request.isUpkeep = true ∨ request.isVisit = true
  | .stopping .., .unregister _ => True
  | .left .., .now | .left .., .update _ => True
  | .left _ stop, .announce event =>
    event.kind.isTerminal = true ∧ (event.kind = .cancelled ↔ stop.isSome = true)
  | _, _ => False

/-- A look decides the phase, whatever the phase was. -/
theorem after_of_look
    {exchange : Exchange}
    {next : Phase}
    (looks : exchange.look? = some next)
    (phase : Phase) :
    phase.after exchange = next := by
  unfold after
  rw [looks]

section

variable {phase : Phase} {id : String}

/-- Executions ask for admission once. -/
theorem Allows.of_register
    {workflowId tenantId : String}
    {limit : Nat}
    (allows : phase.Allows (.register id workflowId tenantId limit)) :
    phase = .outside := by
  cases phase with
  | outside => rfl
  | stepping => rcases allows with allows | allows <;> cases allows
  | _ => cases allows

/-- An execution sets no status but that it runs, and that before its first look. -/
theorem Allows.of_setStatus
    {status : ExecutionStatus}
    (allows : phase.Allows (.setStatus id status)) :
    status = .running ∧ ∃ channel, phase = .entering channel := by
  cases phase with
  | entering channel => exact ⟨allows, channel, rfl⟩
  | stepping => rcases allows with allows | allows <;> cases allows
  | _ => cases allows

/-- Executions leave before their record is stored, behind a step, or when they
are told to stop. -/
theorem Allows.of_unregister (allows : phase.Allows (.unregister id)) :
    (∃ channel, phase = .entering channel) ∨ (∃ channel, phase = .stepping channel) ∨
      ∃ channel reason, phase = .stopping channel reason := by
  cases phase with
  | entering channel => exact .inl ⟨channel, rfl⟩
  | stepping channel => exact .inr (.inl ⟨channel, rfl⟩)
  | stopping channel reason => exact .inr (.inr ⟨channel, reason, rfl⟩)
  | _ => cases allows

/-- Executions only look at their signal before a step or behind one. -/
theorem Allows.of_look
    {request : Request}
    {listener : Listener}
    (allows : phase.Allows request)
    (looks : request.listener? = some listener) :
    phase = .between listener.channel ∨ phase = .stepping listener.channel := by
  have same : phase.Allows (.signal listener) := by
    cases request with
    | signal other =>
      cases looks
      exact allows
    | listen other =>
      cases looks
      cases phase <;> exact allows
    | _ => cases looks
  cases phase with
  | between channel => exact .inl (congrArg _ (Eq.symm same))
  | stepping channel => exact .inr (congrArg _ (Eq.symm same))
  | _ => cases same

end

end Phase

/-- The phase after a history from the start. -/
def History.phase (history : History) : Phase := history.foldl Phase.after .outside

@[simp] theorem History.phase_nil : History.phase [] = .outside := rfl

@[simp] theorem History.phase_concat (history : History) (exchange : Exchange) :
    History.phase (history ++ [exchange]) = history.phase.after exchange := by
  simp [phase]

/-- The phase is told exchange by exchange. -/
theorem History.phase_append (first rest : History) :
    History.phase (first ++ rest) = rest.foldl Phase.after first.phase :=
  List.foldl_append

/-! ## Announcements of the end -/

/-- The end of an execution that is made known in an exchange. -/
def Exchange.ending? : Exchange → Option EventKind
  | ⟨.announce event, _⟩ => if event.kind.isTerminal then some event.kind else none
  | _ => none

/-- The announcements of an end. -/
def History.endings (history : History) : List EventKind := history.filterMap Exchange.ending?

@[simp] theorem History.endings_nil : History.endings [] = [] := rfl

@[simp] theorem History.endings_cons (exchange : Exchange) (rest : History) :
    History.endings (exchange :: rest) = exchange.ending?.toList ++ History.endings rest := by
  cases shown : exchange.ending? <;> simp [endings, shown]

@[simp] theorem History.endings_append (first rest : History) :
    History.endings (first ++ rest) = History.endings first ++ History.endings rest :=
  List.filterMap_append

/-- An execution that is over has made its end known once. -/
def Phase.Announced : Phase → List EventKind → Prop
  | .closed _ stop, kinds => ∃ kind, kinds = [kind] ∧ (kind = .cancelled ↔ stop.isSome = true)
  | _, kinds => kinds = []

/-- An exchange that is allowed announces an end exactly where it closes the execution. -/
theorem Phase.Announced.after
    {phase : Phase}
    {kinds : List EventKind}
    {request : Request}
    {answer : request.Answer}
    (announced : phase.Announced kinds)
    (allows : phase.Allows request) :
    (phase.after ⟨request, answer⟩).Announced
      (kinds ++ (Exchange.mk request answer).ending?.toList) := by
  have passing
      {event : Event}
      (answer : (Request.announce event).Answer)
      (upkeep : (Request.announce event).isUpkeep = true) :
      (Exchange.mk (.announce event) answer).ending? = none := by
    simp only [Request.isUpkeep, Bool.not_eq_true'] at upkeep
    simp [Exchange.ending?, upkeep]
  cases request with
  | announce event =>
    cases phase with
    | between =>
      rw [passing answer allows, Option.toList_none, List.append_nil]
      exact announced
    | stepping =>
      rw [passing answer (allows.resolve_right nofun), Option.toList_none, List.append_nil]
      exact announced
    | left channel stop =>
      obtain rfl : kinds = [] := announced
      exact ⟨event.kind, by simp [Exchange.ending?, allows.1], allows.2⟩
    | _ => exact allows.elim
  | register =>
    cases allows.of_register
    obtain rfl : kinds = [] := announced
    cases answer <;> rfl
  | signal listener =>
    obtain rfl : kinds = [] := by
      rcases allows.of_look rfl with rfl | rfl <;> exact announced
    obtain ⟨signal, listener⟩ := answer
    cases signal <;> rfl
  | listen listener =>
    obtain rfl : kinds = [] := by
      rcases allows.of_look rfl with rfl | rfl <;> exact announced
    cases answer with
    | news signal listener => cases signal <;> rfl
    | silence signal => cases signal <;> rfl
  | _ =>
    refine (congrArg (Phase.Announced _) (List.append_nil kinds)).mpr ?_
    cases phase <;> exact announced

namespace Program

variable {α β : Type}

/-! ## Programs within a phase -/

/-- Every request that a program may make is allowed, and so is every end. -/
def Keeps (allowed : Request → Prop) (wanted : α → Prop) : Program α → Prop
  | .done value => wanted value
  | .ask request next => allowed request ∧ ∀ answer, (next answer).Keeps allowed wanted

section

variable {allowed : Request → Prop} {wanted : α → Prop}

/-- Two programs one after the other keep to what each of them keeps to. -/
theorem Keeps.bind
    {program : Program α}
    {next : α → Program β}
    {target : β → Prop}
    (first : program.Keeps allowed wanted)
    (rest : ∀ value, wanted value → (next value).Keeps allowed target) :
    (program >>= next).Keeps allowed target := by
  induction program with
  | done value => exact rest value first
  | ask request next inductionHypothesis =>
    exact ⟨first.1, fun answer => inductionHypothesis answer (first.2 answer)⟩

theorem Keeps.request
    {request : Request}
    {next : request.Answer → Program α}
    (allows : allowed request)
    (rest : ∀ answer, (next answer).Keeps allowed wanted) :
    (Program.request request >>= next).Keeps allowed wanted := ⟨allows, rest⟩

/-- The kinds of its requests may be all that matters of a program. -/
theorem Uses.keeps
    {kind : Request → Bool}
    {program : Program α}
    (uses : program.Uses kind)
    (allows : ∀ request, kind request = true → allowed request) :
    program.Keeps allowed fun _ => True := by
  induction program with
  | done value => trivial
  | ask request next inductionHypothesis =>
    exact ⟨allows request uses.1, fun answer => inductionHypothesis answer (uses.2 answer)⟩

end

/-! ## Programs from phase to phase -/

/-- Whatever the answers, a program only asks for what its phase allows, and it
ends in a phase that is wanted with its value. -/
def Follows (identity : Identity) (wanted : Phase → α → Prop) : Phase → Program α → Prop
  | phase, .done value => wanted phase value
  | phase, .ask request next =>
    phase.Allows request ∧ request.Carries identity ∧
      ∀ answer, (next answer).Follows identity wanted (phase.after ⟨request, answer⟩)

section

variable {identity : Identity} {phase : Phase} {wanted : Phase → α → Prop}

/-- Two programs one after the other follow the phases if the second one does from wherever
the first one ends. -/
theorem Follows.bind
    {program : Program α}
    {next : α → Program β}
    {target : Phase → β → Prop}
    (first : program.Follows identity wanted phase)
    (rest : ∀ phase value, wanted phase value → (next value).Follows identity target phase) :
    (program >>= next).Follows identity target phase := by
  induction program generalizing phase with
  | done value => exact rest phase value first
  | ask request next inductionHypothesis =>
    exact ⟨first.1, first.2.1, fun answer => inductionHypothesis answer (first.2.2 answer)⟩

theorem Follows.request
    {request : Request}
    {next : request.Answer → Program α}
    (allows : phase.Allows request)
    (carries : request.Carries identity)
    (rest : ∀ answer,
      (next answer).Follows identity wanted (phase.after ⟨request, answer⟩)) :
    (Program.request request >>= next).Follows identity wanted phase := ⟨allows, carries, rest⟩

/-- What is wanted of the end may be weakened. -/
theorem Follows.imp
    {program : Program α}
    {target : Phase → α → Prop}
    (follows : program.Follows identity wanted phase)
    (weaker : ∀ phase value, wanted phase value → target phase value) :
    program.Follows identity target phase := by
  induction program generalizing phase with
  | done value => exact weaker phase value follows
  | ask request next inductionHypothesis =>
    exact ⟨follows.1, follows.2.1, fun answer => inductionHypothesis answer (follows.2.2 answer)⟩

/-- A program whose requests leave the phase alone stays in it. -/
theorem Keeps.follows
    {allowed : Request → Prop}
    {program : Program α}
    {target : α → Prop}
    (keeps : program.Keeps allowed target)
    (steady : ∀ request, allowed request → phase.Allows request ∧ request.Carries identity ∧
      ∀ answer, phase.after ⟨request, answer⟩ = phase) :
    program.Follows identity (fun last value => last = phase ∧ target value) phase := by
  induction program with
  | done value => exact ⟨rfl, keeps⟩
  | ask request next inductionHypothesis =>
    obtain ⟨allows, carries, stays⟩ := steady request keeps.1
    refine ⟨allows, carries, fun answer => ?_⟩
    rw [stays answer]
    exact inductionHypothesis answer (keeps.2 answer)

/-- A program goes on as it has begun, and all that it has said of its execution
is right. -/
theorem Follows.reaches
    {program last : Program α}
    {history : History}
    (follows : program.Follows identity wanted phase)
    (reaches : program.Reaches history last) :
    last.Follows identity wanted (history.foldl Phase.after phase) ∧
      ∀ exchange ∈ history, exchange.request.Carries identity := by
  induction reaches generalizing phase with
  | here => exact ⟨follows, by simp⟩
  | ask _ inductionHypothesis =>
    obtain ⟨rest, carried⟩ := inductionHypothesis (follows.2.2 _)
    exact ⟨rest, List.forall_mem_cons.mpr ⟨follows.2.1, carried⟩⟩

/-- As a program goes on, so do the announcements of its phases. -/
theorem Follows.announced
    {program last : Program α}
    {history : History}
    {kinds : List EventKind}
    (follows : program.Follows identity wanted phase)
    (reaches : program.Reaches history last)
    (announced : phase.Announced kinds) :
    (history.foldl Phase.after phase).Announced (kinds ++ history.endings) := by
  induction reaches generalizing phase kinds with
  | here => simpa using announced
  | ask _ inductionHypothesis =>
    rw [List.foldl_cons, History.endings_cons, ← List.append_assoc]
    exact inductionHypothesis (follows.2.2 _) (announced.after follows.1)

end

end Program
end WorkflowEngine
