import Mathlib.Data.List.Induction
import WorkflowEngine.Store.Any

/-!
# Calls of stores

What a store is to answer is determined by the calls that it has accepted: under a
key there is the record that was stored last, with the attempts in the order in which
they were added.  A store in memory answers that way.
-/

namespace WorkflowEngine

/-- A call of a store. -/
inductive StoreCall where
  | create (record : ExecutionRecord)
  | update (record : ExecutionRecord)
  | append (record : StepRecord)
  | execution (key : StoreKey)
  | steps (key : StoreKey)

/-- What a store answers. -/
inductive StoreAnswer where
  | done
  | execution (record : Option ExecutionRecord)
  | steps (records : List StepRecord)
  | refused (error : StoreError)

namespace StoreCall

/-- The key that a call is about. -/
def key : StoreCall → StoreKey
  | .create record | .update record => record.key
  | .append record => record.key
  | .execution key | .steps key => key

/-- What a call is answered, given the document under its key. -/
def respond : StoreCall → Option Document → StoreAnswer
  | .create _, none | .update _, some _ | .append _, some _ => .done
  | .create record, some _ => .refused (.alreadyExists record.tenantId record.executionId)
  | .update record, none => .refused (.notFound record.tenantId record.executionId)
  | .append record, none => .refused (.notFound record.tenantId record.executionId)
  | .execution _, document => .execution (document.map Document.execution)
  | .steps _, document => .steps ((document.map Document.steps).getD [])

/-- What a call makes of the document under its key. -/
def revise : StoreCall → Option Document → Option Document
  | .create record, none => some { execution := record }
  | .update record, some document => some { document with execution := record }
  | .append record, some document => some { document with steps := document.steps ++ [record] }
  | _, document => document

/-- What a call makes of all that is kept: it only touches what is under its key. -/
def effect (call : StoreCall) (contents : StoreKey → Option Document) :
    StoreKey → Option Document :=
  fun key => if call.key = key then call.revise (contents key) else contents key

section

variable {call : StoreCall} {contents : StoreKey → Option Document}

/-- A call that leaves the document under its key alone changes nothing. -/
theorem effect_eq_self
    (same : call.revise (contents call.key) = contents call.key) :
    call.effect contents = contents := by
  funext key
  unfold effect
  split
  next found => rw [← found, same]
  next => rfl

/-- What a call makes of the document under its key is all that matters. -/
theorem effect_of_revise
    {document : Document}
    (revised : call.revise (contents call.key) = some document) :
    call.effect contents = fun key => if call.key = key then some document else contents key := by
  funext key
  unfold effect
  split
  next found => rw [← found, revised]
  next => rfl

end

/-- The record that a call stores under a key. -/
def record? (key : StoreKey) : StoreCall → Option ExecutionRecord
  | .create record | .update record => if record.key = key then some record else none
  | _ => none

/-- The attempt that a call adds under a key. -/
def attempt? (key : StoreKey) : StoreCall → Option StepRecord
  | .append record => if record.key = key then some record else none
  | _ => none

end StoreCall

namespace Store

/-- The answer to a change, and the store after it. -/
def changed (store : Store) : Except StoreError Store → StoreAnswer × Store
  | .ok after => (.done, after)
  | .error error => (.refused error, store)

/-- The answer to a question, which changes nothing. -/
def asked {α : Type} (store : Store) (answer : α → StoreAnswer) :
    Except StoreError α → StoreAnswer × Store
  | .ok value => (answer value, store)
  | .error error => (.refused error, store)

/-- Makes a call.  One that is refused changes nothing. -/
def call (store : Store) : StoreCall → StoreAnswer × Store
  | .create record => store.changed (store.create record)
  | .update record => store.changed (store.update record)
  | .append record => store.changed (store.append record)
  | .execution key => store.asked .execution (store.execution? key)
  | .steps key => store.asked .steps (store.steps key)

/-- Makes calls one after another. -/
def calls : List StoreCall → Store → List StoreAnswer × Store
  | [], store => ([], store)
  | call :: rest, store =>
    let (answer, store) := store.call call
    let (answers, store) := calls rest store
    (answer :: answers, store)

end Store

/-! ## Logs -/

/-- The calls that have changed a store, in order. -/
abbrev StoreLog := List StoreCall

namespace StoreLog

section

variable (log : StoreLog) (key : StoreKey)

/-- The records that were stored under a key. -/
def records : List ExecutionRecord := log.filterMap (StoreCall.record? key)

/-- The attempts that were added under a key. -/
def attempts : List StepRecord := log.filterMap (StoreCall.attempt? key)

/-- What is kept under a key: the record that was stored last, and all attempts. -/
def document? : Option Document :=
  (log.records key).getLast?.map fun record =>
    { execution := record, steps := log.attempts key }

end

/-- What a call is to be answered. -/
def answer (log : StoreLog) (call : StoreCall) : StoreAnswer :=
  call.respond (log.document? call.key)

/-- Notes a call that changes something. -/
def note (log : StoreLog) (call : StoreCall) : StoreLog :=
  match log.answer call with
  | .done => log ++ [call]
  | _ => log

/-- The log after some calls. -/
def after (calls : List StoreCall) : StoreLog := calls.foldl note []

/-- What calls are to be answered one after another. -/
def answers (log : StoreLog) : List StoreCall → List StoreAnswer
  | [] => []
  | call :: rest => log.answer call :: answers (log.note call) rest

@[simp] theorem after_nil : after [] = [] := rfl

@[simp] theorem after_concat (calls : List StoreCall) (call : StoreCall) :
    after (calls ++ [call]) = (after calls).note call := by
  simp [after]

/-- A log never has it that files cannot be reached. -/
theorem reachable_answers (log : StoreLog) (calls : List StoreCall) (detail : String) :
    .refused (.unreachable detail) ∉ log.answers calls := by
  induction calls generalizing log with
  | nil => exact List.not_mem_nil
  | cons call rest inductionHypothesis =>
    unfold answers answer
    rw [List.mem_cons, not_or]
    refine ⟨?_, inductionHypothesis _⟩
    cases log.document? call.key <;> cases call <;> nofun

/-- Attempts are only kept where there is a record. -/
def IsOrderly (log : StoreLog) : Prop := ∀ key, log.document? key = none → log.attempts key = []

end StoreLog

namespace StoreLog

section

variable {log : StoreLog}

/-- A call that is noted adds its record to those under its key. -/
theorem records_concat (call : StoreCall) (key : StoreKey) :
    records (log ++ [call]) key = log.records key ++ (call.record? key).toList := by
  unfold records
  rw [List.filterMap_append]
  cases known : call.record? key <;> simp [known]

/-- A call that is noted adds its attempt to those under its key. -/
theorem attempts_concat (call : StoreCall) (key : StoreKey) :
    attempts (log ++ [call]) key = log.attempts key ++ (call.attempt? key).toList := by
  unfold attempts
  rw [List.filterMap_append]
  cases known : call.attempt? key <;> simp [known]

/-- Calls about one key leave what is kept under another. -/
theorem document?_concat_of_ne
    {call : StoreCall}
    {key : StoreKey}
    (different : call.key ≠ key) :
    document? (log ++ [call]) key = log.document? key := by
  have unrecorded : call.record? key = none := by
    cases call <;> first | rfl | exact if_neg different
  have unattempted : call.attempt? key = none := by
    cases call <;> first | rfl | exact if_neg different
  simp [document?, records_concat, attempts_concat, unrecorded, unattempted]

/-- A call is noted if it is accepted. -/
theorem note_of_done
    {call : StoreCall}
    (done : log.answer call = .done) :
    log.note call = log ++ [call] := by
  unfold note
  rw [done]

/-- A call that is not answered so changes nothing. -/
theorem note_of_ne_done
    {call : StoreCall}
    (undone : log.answer call ≠ .done) :
    log.note call = log := by
  unfold note
  split
  next done => exact (undone done).elim
  next => rfl

/-- What a call makes of what is kept under its own key. -/
theorem document?_note_self
    (orderly : log.IsOrderly)
    (call : StoreCall) :
    (log.note call).document? call.key = call.revise (log.document? call.key) := by
  cases known : log.document? call.key with
  | none =>
    cases call with
    | create record =>
      rw [note_of_done (by rw [answer, known]; rfl)]
      have fresh : log.attempts record.key = [] := orderly _ known
      simp [document?, records_concat, attempts_concat, StoreCall.record?, StoreCall.attempt?,
        StoreCall.key, StoreCall.revise, fresh]
    | _ =>
      rw [note_of_ne_done (by rw [answer, known]; nofun)]
      exact known
  | some document =>
    cases call with
    | update record =>
      rw [note_of_done (by rw [answer, known]; rfl)]
      obtain ⟨last, -, rfl⟩ := Option.map_eq_some_iff.mp known
      simp [document?, records_concat, attempts_concat, StoreCall.record?, StoreCall.attempt?,
        StoreCall.key, StoreCall.revise]
    | append record =>
      rw [note_of_done (by rw [answer, known]; rfl)]
      obtain ⟨last, found, rfl⟩ := Option.map_eq_some_iff.mp known
      change (log.records record.key).getLast? = some last at found
      simp [document?, records_concat, attempts_concat, StoreCall.record?, StoreCall.attempt?,
        StoreCall.key, StoreCall.revise, found]
    | _ =>
      rw [note_of_ne_done (by rw [answer, known]; nofun)]
      exact known

/-- What a call makes of what is kept. -/
theorem document?_note
    (orderly : log.IsOrderly)
    (call : StoreCall) :
    (log.note call).document? = call.effect log.document? := by
  funext key
  unfold StoreCall.effect
  split
  next same =>
    subst same
    exact document?_note_self orderly call
  next different =>
    by_cases done : log.answer call = .done
    · rw [note_of_done done]
      exact document?_concat_of_ne different
    · rw [note_of_ne_done done]

theorem isOrderly_nil : IsOrderly [] := fun _ _ => rfl

/-- No attempt is added where there is no record. -/
theorem IsOrderly.note
    (orderly : log.IsOrderly)
    (call : StoreCall) :
    (log.note call).IsOrderly := by
  intro key missing
  by_cases done : log.answer call = .done
  · rw [note_of_done done] at missing ⊢
    have unrecorded : log.document? key = none := by
      simp [document?, records_concat] at missing ⊢
      exact missing.2
    rw [attempts_concat, orderly key unrecorded]
    cases call with
    | append record =>
      by_cases same : record.key = key
      · subst same
        rw [answer, StoreCall.key, unrecorded] at done
        cases done
      · simp [StoreCall.attempt?, same]
    | _ => rfl
  · rw [note_of_ne_done done] at missing ⊢
    exact orderly key missing

/-- A log is orderly after any calls. -/
theorem isOrderly_after (calls : List StoreCall) : (after calls).IsOrderly := by
  induction calls using List.reverseRecOn with
  | nil => exact isOrderly_nil
  | append_singleton calls call inductionHypothesis =>
    rw [after_concat]
    exact inductionHypothesis.note call

/-- What calls about a single key make of the document under it, one after another. -/
theorem document?_after_of_key
    {key other : StoreKey}
    {calls : List StoreCall}
    (about : ∀ call ∈ calls, call.key = key) :
    (after calls).document? other =
      if key = other then calls.foldl (fun document call => call.revise document) none
      else none := by
  induction calls using List.reverseRecOn with
  | nil => exact (ite_self _).symm
  | append_singleton calls call inductionHypothesis =>
    obtain ⟨earlier, last⟩ := List.forall_mem_append.mp about
    rw [after_concat, document?_note (isOrderly_after calls), StoreCall.effect,
      inductionHypothesis earlier, last call (List.mem_singleton_self _), List.foldl_append]
    split <;> rfl

end

/-! ## Laws -/

section

variable (past : List StoreCall) (call : StoreCall)

/-- What one more call changes.  Nothing changes under other keys, or if the call is
refused; an update leaves the trail alone, and an addition to the trail the record. -/
structure Laws (before later : StoreKey → Option Document) : Prop where
  others : ∀ key, key ≠ call.key → later key = before key
  refused : ∀ error, (after past).answer call = .refused error → later = before
  update : ∀ record, call = .update record → ∀ key,
    (later key).map Document.steps = (before key).map Document.steps
  append : ∀ record, call = .append record → ∀ key,
    (later key).map Document.execution = (before key).map Document.execution

/-- One more call obeys the laws, whatever the calls before it were. -/
theorem laws : Laws past call (after past).document? (after (past ++ [call])).document? := by
  rw [after_concat]
  have revised := document?_note (isOrderly_after past) call
  constructor
  · intro key different
    rw [revised]
    exact if_neg (Ne.symm different)
  · intro error refused
    rw [note_of_ne_done (by simp [refused])]
  · rintro record rfl key
    rw [revised, StoreCall.effect]
    split
    next => cases document? (after past) key <;> rfl
    next => rfl
  · rintro record rfl key
    rw [revised, StoreCall.effect]
    split
    next => cases document? (after past) key <;> rfl
    next => rfl

end

end StoreLog

/-! ## Stores in memory -/

section

variable {α β : Type} [BEq α] [LawfulBEq α] [DecidableEq α]

theorem lookup_cons_eq_ite
    (entries : List (α × β))
    (key other : α)
    (value : β) :
    ((key, value) :: entries).lookup other =
      if other = key then some value else entries.lookup other := by
  by_cases same : other = key
  · simp [same]
  · rw [if_neg same, List.lookup_cons, beq_false_of_ne same]

/-- What is looked up where the value under a key was changed. -/
theorem lookup_revise
    (entries : List (α × β))
    (key other : α)
    (change : β → β) :
    (entries.map fun entry => if entry.1 = key then (entry.1, change entry.2) else entry).lookup
        other =
      if other = key then (entries.lookup other).map change else entries.lookup other := by
  induction entries with
  | nil => simp
  | cons entry rest inductionHypothesis =>
    obtain ⟨first, value⟩ := entry
    rw [List.map_cons, lookup_cons_eq_ite]
    by_cases same : first = key
    · rw [if_pos same, lookup_cons_eq_ite, inductionHypothesis, same]
      split <;> rfl
    · rw [if_neg same, lookup_cons_eq_ite, inductionHypothesis]
      by_cases found : other = first
      · rw [if_pos found, if_pos found, if_neg (found ▸ same)]
      · rw [if_neg found, if_neg found]

/-- What is looked up where an entry was added behind all others. -/
theorem lookup_concat
    (entries : List (α × β))
    (key other : α)
    (value : β) :
    (entries ++ [(key, value)]).lookup other =
      (entries.lookup other).or (if other = key then some value else none) := by
  induction entries with
  | nil => exact lookup_cons_eq_ite [] key other value
  | cons entry rest inductionHypothesis =>
    obtain ⟨first, found⟩ := entry
    rw [List.cons_append, lookup_cons_eq_ite, lookup_cons_eq_ite, inductionHypothesis]
    split <;> rfl

end

namespace MemoryStore

variable {documents after : MemoryStore} {call : StoreCall} {document : Document}

/-- Only what is there can be modified. -/
theorem modify_of_none
    {key : StoreKey}
    (missing : documents.document? key = none)
    (change : Document → Document) :
    documents.modify key change = .error (.notFound key.tenantId key.executionId) := by
  unfold modify
  rw [missing]
  rfl

/-- To modify a document has the effect of the call that asks for it. -/
theorem modify_of_some
    (change : Document → Document)
    (known : documents.document? call.key = some document)
    (revised : call.revise (some document) = some (change document)) :
    ∃ after, documents.modify call.key change = .ok after ∧
      after.document? = call.effect documents.document? := by
  unfold modify
  rw [known]
  refine ⟨_, rfl, ?_⟩
  rw [StoreCall.effect_of_revise (by rw [known, revised])]
  funext key
  refine (lookup_revise documents.documents call.key key change).trans ?_
  by_cases same : call.key = key
  · subst same
    have found : documents.documents.lookup call.key = some document := known
    rw [if_pos rfl, if_pos rfl, found]
    rfl
  · rw [if_neg same, if_neg (Ne.symm same)]
    rfl

/-- A new record is stored with no attempts. -/
theorem create_of_none
    {record : ExecutionRecord}
    (missing : documents.document? record.key = none) :
    ∃ after, documents.create record = .ok after ∧
      after.document? = (StoreCall.create record).effect documents.document? := by
  refine ⟨documents.add record.key { execution := record } missing, dif_pos missing, ?_⟩
  funext key
  refine (lookup_concat documents.documents record.key key _).trans ?_
  change (documents.document? key).or _ = if record.key = key then _ else _
  by_cases same : record.key = key
  · subst same
    rw [missing, if_pos rfl, if_pos rfl]
    rfl
  · rw [if_neg same, if_neg (Ne.symm same), Option.or_none]

/-- A record cannot be created twice under one key. -/
theorem create_of_some
    {record : ExecutionRecord}
    (known : documents.document? record.key = some document) :
    documents.create record = .error (.alreadyExists record.tenantId record.executionId) := by
  apply dif_neg
  rw [known]
  exact Option.some_ne_none document

/-- What a store in memory answers a call, and what it holds afterwards. -/
theorem call_eq (documents : MemoryStore) (call : StoreCall) :
    ∃ after, (Store.memory documents).call call =
        (call.respond (documents.document? call.key), .memory after) ∧
      after.document? = call.effect documents.document? := by
  cases known : documents.document? call.key with
  | none =>
    have kept (same : call.revise none = none) :
        documents.document? = call.effect documents.document? :=
      (StoreCall.effect_eq_self (by rw [known, same])).symm
    cases call with
    | create record =>
      obtain ⟨after, created, follows⟩ := create_of_none known
      refine ⟨after, ?_, follows⟩
      change Store.changed _ ((documents.create record).map .memory) = _
      rw [created]
      rfl
    | update record =>
      refine ⟨documents, ?_, kept rfl⟩
      change Store.changed _ ((documents.modify record.key _).map .memory) = _
      rw [@modify_of_none documents record.key known]
      rfl
    | append record =>
      refine ⟨documents, ?_, kept rfl⟩
      change Store.changed _ ((documents.modify record.key _).map .memory) = _
      rw [@modify_of_none documents record.key known]
      rfl
    | execution key =>
      refine ⟨documents, ?_, kept rfl⟩
      change (StoreAnswer.execution ((documents.document? key).map _), _) = _
      rw [show documents.document? key = none from known]
      rfl
    | steps key =>
      refine ⟨documents, ?_, kept rfl⟩
      change (StoreAnswer.steps (((documents.document? key).map _).getD []), _) = _
      rw [show documents.document? key = none from known]
      rfl
  | some document =>
    have kept (same : call.revise (some document) = some document) :
        documents.document? = call.effect documents.document? :=
      (StoreCall.effect_eq_self (by rw [known, same])).symm
    cases call with
    | create record =>
      refine ⟨documents, ?_, kept rfl⟩
      change Store.changed _ ((documents.create record).map .memory) = _
      rw [create_of_some known]
      rfl
    | update record =>
      obtain ⟨after, modified, follows⟩ := modify_of_some
        (fun document => { document with execution := record }) known rfl
      refine ⟨after, ?_, follows⟩
      change Store.changed _ ((documents.modify record.key _).map .memory) = _
      rw [show documents.modify record.key _ = _ from modified]
      rfl
    | append record =>
      obtain ⟨after, modified, follows⟩ := modify_of_some
        (fun document => { document with steps := document.steps ++ [record] }) known rfl
      refine ⟨after, ?_, follows⟩
      change Store.changed _ ((documents.modify record.key _).map .memory) = _
      rw [show documents.modify record.key _ = _ from modified]
      rfl
    | execution key =>
      refine ⟨documents, ?_, kept rfl⟩
      change (StoreAnswer.execution ((documents.document? key).map _), _) = _
      rw [show documents.document? key = some document from known]
      rfl
    | steps key =>
      refine ⟨documents, ?_, kept rfl⟩
      change (StoreAnswer.steps (((documents.document? key).map _).getD []), _) = _
      rw [show documents.document? key = some document from known]
      rfl

/-- A store in memory that starts empty answers calls as its log has it. -/
theorem calls_eq
    {log : StoreLog}
    (orderly : log.IsOrderly)
    (holds : documents.document? = log.document?)
    (calls : List StoreCall) :
    ∃ after, Store.calls calls (.memory documents) = (log.answers calls, .memory after) ∧
      after.document? = (calls.foldl StoreLog.note log).document? := by
  induction calls generalizing documents log with
  | nil => exact ⟨documents, rfl, holds⟩
  | cons call rest inductionHypothesis =>
    obtain ⟨middle, answered, follows⟩ := call_eq documents call
    have held : middle.document? = (log.note call).document? := by
      rw [follows, StoreLog.document?_note orderly, holds]
    obtain ⟨after, others, last⟩ := inductionHypothesis (orderly.note call) held
    refine ⟨after, ?_, last⟩
    unfold Store.calls StoreLog.answers StoreLog.answer
    rw [answered, ← holds]
    dsimp only
    rw [others]

end MemoryStore
end WorkflowEngine
