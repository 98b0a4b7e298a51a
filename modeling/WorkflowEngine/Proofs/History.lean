import Mathlib.Data.List.Basic
import WorkflowEngine.Proofs.Program

/-!
# What shows in a history

The records of executions that were stored, the attempts that were added to the
trail, and the handlers that were called.  A program that makes requests of few
kinds leaves nothing of the other kinds in its histories.
-/

namespace WorkflowEngine

namespace Request

/-- The record of an execution that a request stores. -/
def record? : Request → Option ExecutionRecord
  | .create record | .update record => some record
  | _ => none

/-- The attempt that a request adds to the trail. -/
def attempt? : Request → Option StepRecord
  | .append record => some record
  | _ => none

/-- Whether a request belongs to the calling of handlers. -/
def isDispatch : Request → Bool
  | .now | .invoke _ | .wait _ => true
  | _ => false

/-- Whether a request belongs to the writing of the trail. -/
def isWriting : Request → Bool
  | .now | .reading | .append _ => true
  | _ => false

/-- Whether a request belongs to the visit of a step. -/
def isVisit : Request → Bool
  | .clock | .now | .invoke _ | .wait _ | .reading | .append _ => true
  | _ => false

/-- Whether a request belongs to the life of an execution apart from its
visits. -/
def isKeeping : Request → Bool
  | .now | .clock | .signal _ | .listen _ | .update _ | .announce _ | .unregister _ => true
  | _ => false

/-- Handlers are called within visits. -/
theorem isVisit_of_isDispatch
    {request : Request}
    (dispatch : request.isDispatch = true) :
    request.isVisit = true := by
  cases request <;> simp_all [isDispatch, isVisit]

/-- The trail is written within visits. -/
theorem isVisit_of_isWriting
    {request : Request}
    (writing : request.isWriting = true) :
    request.isVisit = true := by
  cases request <;> simp_all [isWriting, isVisit]

end Request

/-- The handler that was called in an exchange, with its reply. -/
def Exchange.invocation? : Exchange → Option (Invocation × Reply)
  | ⟨.invoke invocation, reply⟩ => some (invocation, reply)
  | _ => none

/-- What the clock that counts against limits has shown in an exchange. -/
def Exchange.clock? : Exchange → Option Span
  | ⟨.clock, clock⟩ => some clock
  | _ => none

/-- The attempt that was added to the trail in an exchange and kept there. -/
def Exchange.filed? : Exchange → Option StepRecord
  | ⟨.append record, .ok _⟩ => some record
  | _ => none

namespace History

/-- The records of an execution as they were stored. -/
def records (history : History) : List ExecutionRecord :=
  history.filterMap (fun exchange => exchange.request.record?)

/-- The attempts that were added to the trail. -/
def attempts (history : History) : List StepRecord :=
  history.filterMap (fun exchange => exchange.request.attempt?)

/-- The handlers that were called, with their replies. -/
def invocations (history : History) : List (Invocation × Reply) :=
  history.filterMap Exchange.invocation?

/-- What the clock that counts against limits has shown. -/
def clocks (history : History) : List Span := history.filterMap Exchange.clock?

/-- The attempts that the store has kept. -/
def trail (history : History) : List StepRecord := history.filterMap Exchange.filed?

section

variable (exchange : Exchange) (first rest : History)

@[simp] theorem records_nil : records [] = [] := rfl

@[simp] theorem records_cons :
    records (exchange :: rest) = exchange.request.record?.toList ++ records rest := by
  cases shown : exchange.request.record? <;> simp [records, shown]

@[simp] theorem records_append : records (first ++ rest) = records first ++ records rest :=
  List.filterMap_append

@[simp] theorem attempts_nil : attempts [] = [] := rfl

@[simp] theorem attempts_cons :
    attempts (exchange :: rest) = exchange.request.attempt?.toList ++ attempts rest := by
  cases shown : exchange.request.attempt? <;> simp [attempts, shown]

@[simp] theorem attempts_append : attempts (first ++ rest) = attempts first ++ attempts rest :=
  List.filterMap_append

@[simp] theorem invocations_nil : invocations [] = [] := rfl

@[simp] theorem invocations_cons :
    invocations (exchange :: rest) = exchange.invocation?.toList ++ invocations rest := by
  cases shown : exchange.invocation? <;> simp [invocations, shown]

@[simp] theorem invocations_append :
    invocations (first ++ rest) = invocations first ++ invocations rest :=
  List.filterMap_append

@[simp] theorem clocks_nil : clocks [] = [] := rfl

@[simp] theorem clocks_cons :
    clocks (exchange :: rest) = exchange.clock?.toList ++ clocks rest := by
  cases shown : exchange.clock? <;> simp [clocks, shown]

@[simp] theorem clocks_append : clocks (first ++ rest) = clocks first ++ clocks rest :=
  List.filterMap_append

end

/-- A store that accepts every attempt keeps them all. -/
theorem trail_eq_attempts
    {history : History}
    (accepted : ∀ record error, ⟨.append record, .error error⟩ ∉ history) :
    history.trail = history.attempts := by
  apply List.filterMap_congr
  rintro ⟨request, answer⟩ member
  cases request with
  | append record =>
    cases answer with
    | ok stored => rfl
    | error error => exact (accepted record error member).elim
  | _ => rfl

/-- An element of a list lies in one of its two parts. -/
theorem split_append
    {α : Type}
    {first rest before after : List α}
    {element : α}
    (same : first ++ rest = before ++ element :: after) :
    (∃ middle, first = before ++ element :: middle ∧ after = middle ++ rest) ∨
      ∃ middle, before = first ++ middle ∧ rest = middle ++ element :: after := by
  rcases List.append_eq_append_iff.mp same with ⟨middle, rfl, rfl⟩ | ⟨middle, rfl, tail⟩
  · exact .inr ⟨middle, rfl, rfl⟩
  · cases middle with
    | nil => exact .inr ⟨[], by simp, by simpa using tail.symm⟩
    | cons other middle =>
      rw [List.cons_append, List.cons_eq_cons] at tail
      obtain ⟨rfl, rfl⟩ := tail
      exact .inl ⟨middle, rfl, rfl⟩

/-! ## Silence -/

section

variable {history : History} {kind : Request → Bool}

/-- Requests that store no record leave none behind. -/
theorem records_eq_nil
    (uses : ∀ exchange ∈ history, kind exchange.request = true)
    (silent : ∀ {request : Request}, kind request = true → request.record? = none) :
    history.records = [] :=
  List.filterMap_eq_nil_iff.mpr fun exchange member => silent (uses exchange member)

/-- Requests that write no attempt leave none behind. -/
theorem attempts_eq_nil
    (uses : ∀ exchange ∈ history, kind exchange.request = true)
    (silent : ∀ {request : Request}, kind request = true → request.attempt? = none) :
    history.attempts = [] :=
  List.filterMap_eq_nil_iff.mpr fun exchange member => silent (uses exchange member)

/-- Requests that call no handler leave no call behind. -/
theorem invocations_eq_nil
    (uses : ∀ exchange ∈ history, kind exchange.request = true)
    (silent : ∀ invocation, kind (.invoke invocation) = false) :
    history.invocations = [] := by
  apply List.filterMap_eq_nil_iff.mpr
  rintro ⟨request, answer⟩ member
  have used := uses _ member
  cases request with
  | invoke invocation => simp [silent] at used
  | _ => rfl

end

end History

namespace Program

variable {α β : Type} {kind other : Request → Bool}

/-- Every request that a program may make is of a kind. -/
def Uses (kind : Request → Bool) : Program α → Prop
  | .done _ => True
  | .ask request next => kind request = true ∧ ∀ answer, (next answer).Uses kind

/-- What two programs use at most, one after the other uses at most. -/
theorem Uses.bind
    {program : Program α}
    {next : α → Program β}
    (first : program.Uses kind)
    (rest : ∀ value, (next value).Uses kind) :
    (program >>= next).Uses kind := by
  induction program with
  | done value => exact rest value
  | ask request next inductionHypothesis =>
    exact ⟨first.1, fun answer => inductionHypothesis answer (first.2 answer)⟩

theorem Uses.request
    {request : Request}
    {next : request.Answer → Program α}
    (used : kind request = true)
    (rest : ∀ answer, (next answer).Uses kind) :
    (Program.request request >>= next).Uses kind := ⟨used, rest⟩

/-- Requests that are of one kind are of any wider one. -/
theorem Uses.mono
    {program : Program α}
    (uses : program.Uses kind)
    (wider : ∀ {request}, kind request = true → other request = true) :
    program.Uses other := by
  induction program with
  | done value => trivial
  | ask request next inductionHypothesis =>
    exact ⟨wider uses.1, fun answer => inductionHypothesis answer (uses.2 answer)⟩

/-- A history holds requests of the kind that its program uses. -/
theorem Uses.of_mem
    {program last : Program α}
    {history : History}
    (uses : program.Uses kind)
    (reaches : program.Reaches history last) :
    ∀ exchange ∈ history, kind exchange.request = true := by
  induction reaches with
  | here => simp
  | ask _ inductionHypothesis =>
    rintro exchange (_ | ⟨_, member⟩)
    · exact uses.1
    · exact inductionHypothesis (uses.2 _) exchange member

/-! ## Calls that may come -/

/-- Some answers let a program call a handler. -/
def MayCall (invocation : Invocation) (program : Program α) : Prop :=
  ∃ history reply last, program.Reaches history last ∧ (invocation, reply) ∈ history.invocations

section

variable {invocation : Invocation}

/-- A program that begins by calling a handler may call it. -/
theorem mayCall_invoke (next : Reply → Program α) :
    (Program.request (.invoke invocation) >>= next).MayCall invocation := by
  let reply : Reply := ⟨.zero, .ok .succeed⟩
  exact ⟨[⟨.invoke invocation, reply⟩], reply, next reply, .ask (.here _),
    List.mem_singleton.mpr rfl⟩

/-- A call that follows one answer to a request is possible from the request on. -/
theorem MayCall.of_request
    {request : Request}
    {next : request.Answer → Program α}
    (answer : request.Answer)
    (calls : (next answer).MayCall invocation) :
    (Program.request request >>= next).MayCall invocation := by
  obtain ⟨history, reply, last, reaches, member⟩ := calls
  refine ⟨⟨request, answer⟩ :: history, reply, last, .ask reaches, ?_⟩
  rw [History.invocations_cons]
  exact List.mem_append_right _ member

/-- A call that is possible in the first of two programs is possible in both together. -/
theorem MayCall.bind
    {program : Program α}
    (calls : program.MayCall invocation)
    (next : α → Program β) :
    (program >>= next).MayCall invocation := by
  obtain ⟨history, reply, last, reaches, member⟩ := calls
  exact ⟨history, reply, _, reaches.bind next, member⟩

/-- A call that is possible in the second of two programs is possible in both together, as
soon as the first one can end there. -/
theorem MayCall.of_ends
    {program : Program α}
    {next : α → Program β}
    {history : History}
    {value : α}
    (ends : program.Ends history value)
    (calls : (next value).MayCall invocation) :
    (program >>= next).MayCall invocation := by
  obtain ⟨rest, reply, last, reaches, member⟩ := calls
  refine ⟨history ++ rest, reply, last, ends.bind reaches, ?_⟩
  rw [History.invocations_append]
  exact List.mem_append_right _ member

/-- A call that may come does so on some way to an end. -/
theorem MayCall.exists_ends
    {program : Program α}
    (calls : program.MayCall invocation) :
    ∃ history value reply, program.Ends history value ∧
      (invocation, reply) ∈ history.invocations := by
  obtain ⟨history, reply, last, reaches, member⟩ := calls
  obtain ⟨rest, value, ends⟩ := reaches.exists_ends
  refine ⟨history ++ rest, value, reply, ends, ?_⟩
  rw [History.invocations_append]
  exact List.mem_append_left _ member

end

end Program
end WorkflowEngine
