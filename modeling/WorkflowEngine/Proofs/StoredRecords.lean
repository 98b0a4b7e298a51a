import WorkflowEngine.Proofs.Endings
import WorkflowEngine.Proofs.Isolation

/-!
# Stored records

Any number of executions may meet under one key of a store.  Only one of them is allowed to
create a document there, and after that nobody else touches it.  So the document holds its
records, and in the end the one that is closed, for good.
-/

namespace WorkflowEngine

open Execution (Next Run Concluded)

/-! ## Calls of stores -/

namespace StoreCall

/-- Whether a document was created by a call, going by its answer. -/
def opens : StoreCall × StoreAnswer → Bool
  | (.create _, .done) => true
  | _ => false

/-- Whether a call was refused to create a document. -/
def bounces : StoreCall × StoreAnswer → Bool
  | (.create _, .refused _) => true
  | _ => false

/-- Whether a call changes a document that is there. -/
def changes : StoreCall → Bool
  | .update _ | .append _ => true
  | _ => false

/-- The record in a call. -/
def filed? : StoreCall → Option ExecutionRecord
  | .create record | .update record => some record
  | _ => none

/-- The record that was taken in a call, going by its answer. -/
def taken? : StoreCall × StoreAnswer → Option ExecutionRecord
  | (call, .done) => call.filed?
  | _ => none

namespace Answered

variable
  {calls : List (StoreCall × StoreAnswer)}
  {first last : Option Document}
  {document : Document}

/-- Where there is a document, no other one is created. -/
theorem opens_eq_nil (answered : Answered (some document) calls last) :
    calls.filter opens = [] := by
  induction calls generalizing document with
  | nil => rfl
  | cons stored rest inductionHypothesis =>
    obtain ⟨call, answer⟩ := stored
    obtain ⟨rfl, answered⟩ := answered
    cases call <;> exact inductionHypothesis answered

/-- At most one document is created under a key. -/
theorem opens_length_le (answered : Answered first calls last) :
    (calls.filter opens).length ≤ 1 := by
  induction calls generalizing first with
  | nil => exact Nat.zero_le _
  | cons stored rest inductionHypothesis =>
    obtain ⟨call, answer⟩ := stored
    obtain ⟨rfl, answered⟩ := answered
    cases first with
    | some document => cases call <;> exact inductionHypothesis answered
    | none =>
      cases call with
      | create record =>
        have opened : ((create record, .done) :: rest).filter opens = [(create record, .done)] :=
          congrArg _ answered.opens_eq_nil
        exact Nat.le_of_eq (congrArg List.length opened)
      | _ => exact inductionHypothesis answered

/-- Refusals to create a document leave everything as it is. -/
theorem filter_bounces (answered : Answered first calls last) :
    Answered first (calls.filter fun stored => !bounces stored) last := by
  induction calls generalizing first with
  | nil => exact answered
  | cons stored rest inductionHypothesis =>
    obtain ⟨call, answer⟩ := stored
    obtain ⟨rfl, answered⟩ := answered
    cases first with
    | none => cases call <;> exact ⟨rfl, inductionHypothesis answered⟩
    | some document =>
      cases call with
      | create => exact inductionHypothesis answered
      | _ => exact ⟨rfl, inductionHypothesis answered⟩

/-- Changes of a document that is there are accepted. -/
theorem accepts
    (answered : Answered (some document) calls last)
    (changing : ∀ stored ∈ calls, stored.1.changes = true) :
    ∀ stored ∈ calls, stored.2 = .done := by
  induction calls generalizing document with
  | nil => simp
  | cons stored rest inductionHypothesis =>
    obtain ⟨call, answer⟩ := stored
    obtain ⟨rfl, answered⟩ := answered
    rw [List.forall_mem_cons] at changing ⊢
    obtain ⟨own, changing⟩ := changing
    cases call with
    | update | append => exact ⟨rfl, inductionHypothesis answered changing⟩
    | _ => cases own

/-- A document holds the record that was taken last. -/
theorem execution_eq (answered : Answered first calls last) :
    last.map Document.execution =
      ((first.map Document.execution).toList ++ calls.filterMap taken?).getLast? := by
  induction calls generalizing first with
  | nil =>
    obtain rfl : last = first := answered
    cases last <;> rfl
  | cons stored rest inductionHypothesis =>
    obtain ⟨call, answer⟩ := stored
    obtain ⟨rfl, answered⟩ := answered
    rw [inductionHypothesis answered]
    cases first <;> cases call <;>
      simp [List.filterMap_cons, revise, respond, taken?, filed?]

end Answered
end StoreCall

/-- What one execution has asked of a store. -/
inductive StoreCall.Filing : List (StoreCall × StoreAnswer) → Prop
  | nothing : Filing []
  /-- It was refused to create a document. -/
  | bounced (record : ExecutionRecord) (error : StoreError) :
      Filing [(.create record, .refused error)]
  /-- It has created a document, and may have changed it. -/
  | opened
      {record : ExecutionRecord}
      {rest : List (StoreCall × StoreAnswer)}
      (changing : ∀ stored ∈ rest, stored.1.changes = true) :
      Filing ((.create record, .done) :: rest)

namespace StoreCall.Filing

variable {calls first rest : List (StoreCall × StoreAnswer)}

theorem of_append (filing : Filing (first ++ rest)) : Filing first := by
  cases first with
  | nil => exact .nothing
  | cons stored others =>
    rw [List.cons_append] at filing
    generalize reached : stored :: (others ++ rest) = calls at filing
    cases filing with
    | nothing => cases reached
    | bounced record error =>
      obtain ⟨rfl, none⟩ := List.cons.inj reached
      obtain ⟨rfl, -⟩ := List.append_eq_nil_iff.mp none
      exact .bounced record error
    | opened changing =>
      obtain ⟨rfl, rfl⟩ := List.cons.inj reached
      exact .opened fun stored member => changing stored (List.mem_append_left _ member)

theorem append
    (filing : Filing first)
    (opened : ∃ stored ∈ first, opens stored = true)
    (changing : ∀ stored ∈ rest, stored.1.changes = true) :
    Filing (first ++ rest) := by
  obtain ⟨stored, member, opened⟩ := opened
  cases filing with
  | nothing => cases member
  | bounced =>
    obtain rfl := List.mem_singleton.mp member
    cases opened
  | opened changed =>
    rw [List.cons_append]
    exact .opened (List.forall_mem_append.mpr ⟨changed, changing⟩)

/-- Whoever has created no document was refused to. -/
theorem bounces_of_mem
    {stored : StoreCall × StoreAnswer}
    (filing : Filing calls)
    (unopened : ∀ stored ∈ calls, opens stored = false)
    (member : stored ∈ calls) :
    bounces stored = true := by
  cases filing with
  | nothing => cases member
  | bounced =>
    obtain rfl := List.mem_singleton.mp member
    rfl
  | opened => cases unopened _ List.mem_cons_self

/-- Whoever has created a document was never refused to. -/
theorem bounces_eq_false
    {opening stored : StoreCall × StoreAnswer}
    (filing : Filing calls)
    (opener : opening ∈ calls)
    (opened : opens opening = true)
    (member : stored ∈ calls) :
    bounces stored = false := by
  cases filing with
  | nothing => cases member
  | bounced =>
    obtain rfl := List.mem_singleton.mp opener
    cases opened
  | opened changing =>
    rcases List.mem_cons.mp member with rfl | member
    · rfl
    · have changes := changing stored member
      obtain ⟨call, answer⟩ := stored
      cases call <;> first | rfl | cases changes

end StoreCall.Filing

/-- The records in a history are those in its calls of the store. -/
theorem History.records_eq (history : History) :
    history.records = history.storage.filterMap fun stored => stored.1.filed? := by
  unfold records storage
  rw [List.filterMap_filterMap]
  congr 1
  funext made
  obtain ⟨request, answer⟩ := made
  cases request <;> rfl

/-! ## Runs -/

namespace Execution

section

variable
  {environment : Environment}
  {workflow : Workflow}
  {call : Call}
  {history : History}

theorem changes_of_mem_storage
    (uses : ∀ exchange ∈ history,
      exchange.request.isKeeping = true ∨ exchange.request.isVisit = true) :
    ∀ stored ∈ history.storage, stored.1.changes = true := by
  intro stored member
  obtain ⟨⟨request, answer⟩, made, stores⟩ := List.mem_filterMap.mp member
  have used := uses _ made
  cases request with
  | update | append =>
    cases stores
    rfl
  | create => rcases used with used | used <;> cases used
  | _ => cases stores

/-- An execution that is admitted has created its document. -/
theorem filing_of_ends_start
    {next : Next}
    (ends : (start environment workflow call).Ends history next) :
    StoreCall.Filing history.storage ∧ ∀ execution, next = .turn execution →
      ∃ stored ∈ history.storage, StoreCall.opens stored = true := by
  cases starts_of_ends ends with
  | rejected =>
    refine ⟨.nothing, ?_⟩
    rintro _ ⟨⟩
  | unstored =>
    refine ⟨.bounced _ _, ?_⟩
    rintro _ ⟨⟩
  | admitted syncing =>
    obtain ⟨later, stored, rfl, rfl⟩ := ends_sync syncing
    refine ⟨.opened ?_, fun _ _ => ⟨_, List.mem_cons_self, rfl⟩⟩
    intro stored member
    obtain rfl := List.mem_singleton.mp member
    rfl

theorem Run.filing_of_turn
    {execution : Execution}
    (run : Run environment workflow call history (.done (.turn execution))) :
    StoreCall.Filing history.storage ∧
      ∃ stored ∈ history.storage, StoreCall.opens stored = true := by
  apply run.invariant_of_ends
  · intro history execution begun
    obtain ⟨filing, opened⟩ := filing_of_ends_start begun
    exact ⟨filing, opened execution rfl⟩
  · rintro past history execution after _ ⟨filing, opening, member, opened⟩ acted
    rw [History.storage_append]
    exact ⟨filing.append ⟨opening, member, opened⟩
      (changes_of_mem_storage (acted_of_ends acted).uses),
      opening, List.mem_append_left _ member, opened⟩

theorem Run.filing
    {now : Program Next}
    (run : Run environment workflow call history now) :
    StoreCall.Filing history.storage := by
  cases run with
  | start begun =>
    obtain ⟨rest, next, ends⟩ := begun.exists_ends
    have filing := (filing_of_ends_start ends).1
    rw [History.storage_append] at filing
    exact filing.of_append
  | turn run turned =>
    obtain ⟨filing, opened⟩ := run.filing_of_turn
    rw [History.storage_append]
    exact filing.append opened (changes_of_mem_storage (uses_of_turn turned))

/-- A run that has ended has created a document. -/
theorem Run.exists_opening
    {record : ExecutionRecord}
    (run : Run environment workflow call history (.done (.ended record))) :
    ∃ stored ∈ history.storage, StoreCall.opens stored = true := by
  obtain ⟨past, _, acting, _, _, closing, rfl, before, -, -⟩ := run.last_turn
  obtain ⟨opening, member, opened⟩ := before.filing_of_turn.2
  refine ⟨opening, ?_, opened⟩
  rw [List.append_assoc, History.storage_append]
  exact List.mem_append_left _ member

/-- All records of a run that has ended are taken by a store that answers its calls. -/
theorem Run.taken_eq
    {record : ExecutionRecord}
    {first last : Option Document}
    (run : Run environment workflow call history (.done (.ended record)))
    (answered : StoreCall.Answered first history.storage last) :
    history.storage.filterMap StoreCall.taken? = history.records := by
  obtain ⟨opening, member, opened⟩ := run.exists_opening
  have filing := run.filing
  rw [History.records_eq]
  generalize history.storage = calls at *
  cases filing with
  | nothing => cases member
  | bounced =>
    obtain rfl := List.mem_singleton.mp member
    cases opened
  | @opened created rest changing =>
    obtain ⟨accepted, answered⟩ := answered
    -- There was no document before, or the store would have refused to create this one.
    cases first with
    | some document => cases accepted
    | none =>
      have accepted := StoreCall.Answered.accepts answered changing
      refine congrArg (created :: ·) (List.filterMap_congr fun stored member => ?_)
      obtain ⟨call, answer⟩ := stored
      obtain rfl : answer = .done := accepted _ member
      rfl

end

end Execution

/-! ## One document -/

/-- The calls of a store about a key, with their answers. -/
def callsUnder (key : StoreKey) (moves : List Move) : List (StoreCall × StoreAnswer) :=
  (exchanges moves).storage.filter fun stored => stored.1.key = key

section

variable
  {moves : List Move}
  {key : StoreKey}
  {first last : Option Document}

/-- Only one execution creates a document under a key. -/
theorem eq_of_opens
    {one other : Nat}
    {opening another : StoreCall × StoreAnswer}
    (answered : StoreCall.Answered first (callsUnder key moves) last)
    (member : opening ∈ (historyOf one moves).storage)
    (own : opening.1.key = key)
    (opened : StoreCall.opens opening = true)
    (otherMember : another ∈ (historyOf other moves).storage)
    (otherOwn : another.1.key = key)
    (otherOpened : StoreCall.opens another = true) :
    one = other := by
  let opens? (move : Move) : Option (StoreCall × StoreAnswer) :=
    (move.made?.bind Exchange.storage?).filter fun stored =>
      StoreCall.opens stored ∧ stored.1.key = key
  have few : (moves.filter fun move => (opens? move).isSome).length ≤ 1 := by
    have bounded := answered.opens_length_le
    unfold callsUnder exchanges History.storage at bounded
    rw [List.filterMap_filterMap, List.filter_filter, List.filter_filterMap,
      List.length_filterMap_eq_countP, List.countP_eq_length_filter] at bounded
    simpa [opens?] using bounded
  have listed {job : Nat} {stored : StoreCall × StoreAnswer}
      (member : stored ∈ (historyOf job moves).storage)
      (own : stored.1.key = key)
      (opened : StoreCall.opens stored = true) :
      ∃ made, .exchange job made ∈ moves.filter fun move => (opens? move).isSome := by
    obtain ⟨made, member, stores⟩ := List.mem_filterMap.mp member
    refine ⟨made, List.mem_filter.mpr ⟨mem_historyOf.mp member, ?_⟩⟩
    simp [opens?, Move.made?, stores, own, opened]
  obtain ⟨made, listedOne⟩ := listed member own opened
  obtain ⟨others, listedOther⟩ := listed otherMember otherOwn otherOpened
  generalize moves.filter (fun move => (opens? move).isSome) = openers at *
  cases openers with
  | nil => cases listedOne
  | cons opener rest =>
    obtain rfl : rest = [] := List.eq_nil_of_length_eq_zero (by simpa using few)
    cases (List.mem_singleton.mp listedOne).trans (List.mem_singleton.mp listedOther).symm
    rfl

variable
  {fleet : Fleet}
  {job : Nat}
  {order : Order}

/-- An execution only makes calls about its own document. -/
theorem Path.key_of_mem_storage
    {stored : StoreCall × StoreAnswer}
    (path : Path moves fleet)
    (ordered : (orders moves)[job]? = some order)
    (member : stored ∈ (historyOf job moves).storage) :
    stored.1.key = order.identity.key := by
  obtain ⟨made, listed, stores⟩ := List.mem_filterMap.mp member
  obtain ⟨_, same, carries⟩ := path.carries listed
  cases ordered.symm.trans same
  exact Exchange.key_of_storage? (carries made listed) stores

theorem Path.filing
    (path : Path moves fleet)
    (ordered : (orders moves)[job]? = some order) :
    StoreCall.Filing (historyOf job moves).storage := by
  have bound := (List.getElem?_eq_some_iff.mp ordered).1
  rw [← path.tracks.length_eq] at bound
  obtain ⟨_, -, run⟩ := path.tracks.runs (List.getElem?_eq_getElem bound)
  exact run.filing

/-- Whoever has created the document under its key has made all calls about it but for
refusals to create another one. -/
theorem Path.callsUnder_eq
    (path : Path moves fleet)
    (ordered : (orders moves)[job]? = some order)
    (opener : ∃ stored ∈ (historyOf job moves).storage, StoreCall.opens stored = true)
    (answered : StoreCall.Answered first (callsUnder order.identity.key moves) last) :
    (callsUnder order.identity.key moves).filter (fun stored => !StoreCall.bounces stored) =
      (historyOf job moves).storage := by
  obtain ⟨opening, opener, opened⟩ := opener
  have own := path.key_of_mem_storage ordered opener
  unfold callsUnder exchanges historyOf History.storage
  rw [List.filterMap_filterMap, List.filterMap_filterMap, List.filter_filter,
    List.filter_filterMap]
  apply List.filterMap_congr
  intro move member
  cases move with
  | exchange other made =>
    have listed : made ∈ historyOf other moves := mem_historyOf.mpr member
    obtain ⟨caller, called, -⟩ := path.carries listed
    unfold Move.made? Move.exchange?
    dsimp only
    rw [Option.bind_some]
    cases stores : made.storage? with
    | none => split <;> simp [stores]
    | some stored =>
      have member : stored ∈ (historyOf other moves).storage :=
        List.mem_filterMap.mpr ⟨made, listed, stores⟩
      by_cases same : other = job
      · subst same
        have accepted := (path.filing ordered).bounces_eq_false opener opened member
        rw [if_pos rfl, Option.bind_some, stores, Option.filter_some, if_pos]
        simp [path.key_of_mem_storage ordered member, accepted]
      · rw [if_neg same, Option.bind_none, Option.filter_some, if_neg]
        -- A call about the same document that was not refused would come from its creator.
        intro kept
        obtain ⟨kept, about⟩ : StoreCall.bounces stored = false ∧
            stored.1.key = order.identity.key := by simpa using kept
        have unopened : ∀ another ∈ (historyOf other moves).storage,
            StoreCall.opens another = false := by
          intro another listed
          by_contra opens
          have key : another.1.key = order.identity.key :=
            (path.key_of_mem_storage called listed).trans
              ((path.key_of_mem_storage called member).symm.trans about)
          exact same (eq_of_opens answered listed key (by simpa using opens) opener own opened)
        have bounced := (path.filing called).bounces_of_mem unopened member
        rw [kept] at bounced
        cases bounced
  | _ => rfl

/-- The records that a store has taken under the key of an execution that has ended are those
of the execution. -/
theorem Path.taken_eq
    {record : ExecutionRecord}
    (path : Path moves fleet)
    (ordered : (orders moves)[job]? = some order)
    (ended : fleet.jobs[job]? = some (.done (.ended record)))
    (answered : StoreCall.Answered first (callsUnder order.identity.key moves) last) :
    (callsUnder order.identity.key moves).filterMap StoreCall.taken? =
      (historyOf job moves).records := by
  have run := path.run_of_ordered ordered ended
  have calls := path.callsUnder_eq ordered run.exists_opening answered
  have alone := answered.filter_bounces
  rw [calls] at alone
  rw [← run.taken_eq alone, ← calls, List.filterMap_filter]
  apply List.filterMap_congr
  rintro ⟨call, answer⟩ -
  cases call <;> cases answer <;> rfl

/-- However executions and callers are interleaved, the last record of an execution is
coherent.  The step at fault has failed in the end, unless the execution came too late to
dispatch it and it had not failed before.  If the store answers the calls about its document,
the document holds that record from then on, and no record that it held before was closed. -/
theorem Path.last_record
    {record : ExecutionRecord}
    (path : Path moves fleet)
    (ordered : (orders moves)[job]? = some order)
    (valid : order.workflow.isValid = true)
    (ended : fleet.jobs[job]? = some (.done (.ended record))) :
    record.IsCoherent order.workflow ∧
    (∃ before acting final,
      Concluded order.environment order.workflow order.call (historyOf job moves) before acting
        final record ∧
      record.failedSteps = final.schedule.countOf .failed ∧
      ∀ id, record.failedStep = some id →
        (final.schedule.outcome? id = some .failed ↔
          (before.entersLate acting.clocks = true →
            before.schedule.outcome? id = some .failed))) ∧
    ∀ first last, StoreCall.Answered first (callsUnder record.key moves) last →
      (∃ document, last = some document ∧ document.execution = record) ∧
      ∃ earlier, (callsUnder record.key moves).filterMap StoreCall.taken? = earlier ++ [record] ∧
        ∀ other ∈ earlier, other.status.isTerminal = false := by
  have run := path.run_of_ordered ordered ended
  have key : record.key = order.identity.key := congrArg Identity.key run.identity_eq
  obtain ⟨before, acting, final, concluded⟩ := run.exists_concluded
  obtain ⟨coherent, earlier, records, areOpen⟩ := concluded.isCoherent valid
  refine ⟨coherent, ⟨before, acting, final, concluded, concluded.failedSteps_eq, ?_⟩, ?_⟩
  · intro id fault
    rw [concluded.outcome?_of_fault fault]
    split
    next late => cases before.schedule.outcome? id <;> simp [late]
    next timely => simp [timely]
  · intro first last answered
    rw [key] at answered ⊢
    have taken := (path.taken_eq ordered ended answered).trans records
    have execution := answered.execution_eq
    rw [taken, ← List.append_assoc, List.getLast?_concat] at execution
    exact ⟨Option.map_eq_some_iff.mp execution, earlier, taken,
      fun other member => (areOpen other member).isTerminal⟩

end

namespace Ensemble

/-- A handler that fails. -/
def failing : Handler Unit where
  description := "failing"
  supportsDryRun := true
  perform _ _ := (some ⟨.zero, .ok (.fail "out of order")⟩, ())

/-- A world with that handler for the only step of a workflow. -/
def failingWorld : World Unit where
  actions := [(.custom "work", failing)]
  state := ()
  workflows := [("single", Order.single.workflow)]

/-- An order for the workflow with a time limit, or without one. -/
def singleWithin (timeout : Option Span) : Order :=
  { Order.single with call := { executionId := "run", options := { timeout } } }

theorem offers_singleWithin (timeout : Option Span) :
    failingWorld.Offers (singleWithin timeout) where
  environment_eq := rfl
  offered := .inl ⟨"single", rfl⟩

/-- The step fails, and the record in the store has it so. -/
theorem last_record_of_failing :
    (singleWithin none).workflow.isValid = true ∧
    ∃ moves ensemble record,
      Path failingWorld moves ensemble ∧ orders moves = [singleWithin none] ∧
      ensemble.jobs[0]? = some (.done (.ended record)) ∧
      record.status = .failed ∧ record.failedStep = some "work" ∧ record.failedSteps = 1 ∧
      record.IsCoherent (singleWithin none).workflow ∧
      (∃ document kept, ensemble.world.store = .memory kept ∧
        kept.document? record.key = some document ∧ document.execution = record) ∧
      ∃ earlier, (callsUnder record.key moves).filterMap StoreCall.taken? = earlier ++ [record] ∧
        ∀ other ∈ earlier, other.status.isTerminal = false := by
  have path := (Path.move .start (.call (offers_singleWithin none))).follow
    (List.replicate 26 0)
  obtain ⟨moves, ensemble, record, path, ordered, ended, status, fault, counted⟩ :
      ∃ moves ensemble record, Path failingWorld moves ensemble ∧
        orders moves = [singleWithin none] ∧
        ensemble.jobs[0]? = some (.done (.ended record)) ∧
        record.status = .failed ∧ record.failedStep = some "work" ∧ record.failedSteps = 1 :=
    ⟨_, _, _, path, rfl, rfl, rfl, rfl, rfl⟩
  have valid : (singleWithin none).workflow.isValid = true := by rfl
  have first : (orders moves)[0]? = some (singleWithin none) := by rw [ordered]; rfl
  obtain ⟨coherent, -, stored⟩ := (path.fleet rfl).last_record first valid ended
  obtain ⟨kept, holds, answered⟩ := path.answered rfl
  obtain ⟨⟨document, found, same⟩, earlier⟩ := stored _ _ (answered record.key)
  exact ⟨valid, moves, ensemble, record, path, ordered, ended, status, fault, counted, coherent,
    ⟨document, kept, holds, found, same⟩, earlier⟩

/-- The time is up between the look at the clock before the step and the one before its
dispatch.  The record names the step, which has not failed. -/
theorem late_step_not_failed :
    (singleWithin (some ⟨200000⟩)).workflow.isValid = true ∧
    ∃ moves ensemble record,
      Path failingWorld moves ensemble ∧ orders moves = [singleWithin (some ⟨200000⟩)] ∧
      ensemble.jobs[0]? = some (.done (.ended record)) ∧
      record.status = .timeout ∧ record.failedStep = some "work" ∧ record.failedSteps = 0 ∧
      ∀ before acting final,
        Concluded (singleWithin (some ⟨200000⟩)).environment Order.single.workflow
          (singleWithin (some ⟨200000⟩)).call (historyOf 0 moves) before acting final record →
        final.schedule.outcome? "work" ≠ some .failed := by
  have path := (Path.move .start (.call (offers_singleWithin (some ⟨200000⟩)))).follow
    (List.replicate 26 0)
  obtain ⟨moves, ensemble, record, path, ordered, ended, status, fault, uncounted⟩ :
      ∃ moves ensemble record, Path failingWorld moves ensemble ∧
        orders moves = [singleWithin (some ⟨200000⟩)] ∧
        ensemble.jobs[0]? = some (.done (.ended record)) ∧
        record.status = .timeout ∧ record.failedStep = some "work" ∧ record.failedSteps = 0 :=
    ⟨_, _, _, path, rfl, rfl, rfl, rfl, rfl⟩
  refine ⟨by rfl, moves, ensemble, record, path, ordered, ended, status, fault, uncounted, ?_⟩
  intro before acting final concluded failed
  have none := concluded.failedSteps_eq.symm.trans uncounted
  unfold Schedule.countOf at none
  rw [concluded.steps_eq, List.countP_eq_zero] at none
  exact none { id := "work", type := .custom "work" } (List.mem_singleton.mpr rfl)
    (beq_iff_eq.mpr failed)

end Ensemble
end WorkflowEngine
