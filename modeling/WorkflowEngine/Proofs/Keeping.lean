import WorkflowEngine.Proofs.Continues
import WorkflowEngine.Proofs.History

/-!
# Histories between visits

How an execution keeps its record and listens for signals.  Between two visits
every record that is stored carries the tallies of the schedule as it is.
-/

namespace WorkflowEngine

/-- The number of steps that have come out one way or another. -/
def Schedule.accounted (schedule : Schedule) : Nat := schedule.counts.total

namespace Execution

/-- What an execution did was no visit of a step. -/
structure Kept (before : Execution) (history : History) (after : Execution) : Prop where
  keeping : ∀ exchange ∈ history, exchange.request.isKeeping = true
  environment : after.environment = before.environment
  workflow : after.workflow = before.workflow
  schedule : after.schedule = before.schedule
  context : after.context = before.context
  totalSteps : after.record.totalSteps = before.record.totalSteps
  records : ∀ record ∈ history.records,
    record.accounted = before.schedule.accounted ∧
      record.totalSteps = before.record.totalSteps

namespace Kept

variable {before middle after : Execution} {history first rest : History}

theorem refl (execution : Execution) : Kept execution [] execution where
  keeping _ member := nomatch member
  environment := rfl
  workflow := rfl
  schedule := rfl
  context := rfl
  totalSteps := rfl
  records _ member := nomatch member

theorem trans
    (begun : Kept before first middle)
    (continued : Kept middle rest after) :
    Kept before (first ++ rest) after where
  keeping exchange member :=
    (List.mem_append.mp member).elim (begun.keeping exchange) (continued.keeping exchange)
  environment := continued.environment.trans begun.environment
  workflow := continued.workflow.trans begun.workflow
  schedule := continued.schedule.trans begun.schedule
  context := continued.context.trans begun.context
  totalSteps := continued.totalSteps.trans begun.totalSteps
  records record member := by
    rw [History.records_append, List.mem_append] at member
    rcases member with member | member
    · exact begun.records record member
    · have kept := continued.records record member
      rwa [begun.schedule, begun.totalSteps] at kept

/-- An execution that is kept evolves at most by what does not count. -/
theorem evolves (kept : Kept before history after) : before.Evolves after :=
  .single (.kept kept.environment kept.workflow kept.schedule kept.context kept.totalSteps)

theorem continues (kept : Kept before history after) : before.Continues after :=
  kept.evolves.continues

/-- Where an execution is kept, no attempt is recorded. -/
theorem attempts_eq_nil (kept : Kept before history after) : history.attempts = [] :=
  History.attempts_eq_nil kept.keeping fun {request} keeping => by
    cases request <;> first | rfl | cases keeping

/-- Where an execution is kept, no handler is called. -/
theorem invocations_eq_nil (kept : Kept before history after) : history.invocations = [] :=
  History.invocations_eq_nil kept.keeping fun _ => rfl

end Kept

/-- An execution did nothing but keep its record and listen, without a look at the
clock. -/
structure Steady (before : Execution) (history : History) (after : Execution) : Prop
    extends Kept before history after where
  unclocked : history.clocks = []
  after_eq : ∃ record listener isPaused,
    after = { before with record, listener, isPaused }

namespace Steady

variable {before middle after : Execution} {history first rest : History}

theorem refl (execution : Execution) : Steady execution [] execution where
  toKept := .refl execution
  unclocked := rfl
  after_eq := ⟨_, _, _, rfl⟩

theorem trans
    (begun : Steady before first middle)
    (continued : Steady middle rest after) :
    Steady before (first ++ rest) after where
  toKept := begun.toKept.trans continued.toKept
  unclocked := by rw [History.clocks_append, begun.unclocked, continued.unclocked, List.append_nil]
  after_eq := by
    obtain ⟨_, _, _, rfl⟩ := begun.after_eq
    obtain ⟨record, listener, isPaused, rfl⟩ := continued.after_eq
    exact ⟨record, listener, isPaused, rfl⟩

/-- The record may be changed as long as it has room for the same steps. -/
theorem set
    (steady : Steady before history after)
    (record : ExecutionRecord)
    (totalSteps : record.totalSteps = after.record.totalSteps)
    (listener : Listener)
    (isPaused : Bool) :
    Steady before history { after with record, listener, isPaused } where
  keeping := steady.keeping
  environment := steady.environment
  workflow := steady.workflow
  schedule := steady.schedule
  context := steady.context
  totalSteps := totalSteps.trans steady.totalSteps
  records := steady.records
  unclocked := steady.unclocked
  after_eq := by
    obtain ⟨_, _, _, rfl⟩ := steady.after_eq
    exact ⟨record, listener, isPaused, rfl⟩

/-- The time runs on as before. -/
theorem isTimedOut_eq (steady : Steady before history after) (clock : Span) :
    after.isTimedOut clock = before.isTimedOut clock := by
  obtain ⟨_, _, _, rfl⟩ := steady.after_eq
  rfl

end Steady

/-! ## What the programs do -/

section

variable {execution : Execution} {history : History}

/-- A single exchange of keeping that stores no record leaves the execution as it is. -/
theorem kept_exchange
    {exchange : Exchange}
    (keeping : exchange.request.isKeeping = true)
    (silent : exchange.request.record? = none) :
    Kept execution [exchange] execution where
  keeping other member := by
    obtain rfl := List.mem_singleton.mp member
    exact keeping
  environment := rfl
  workflow := rfl
  schedule := rfl
  context := rfl
  totalSteps := rfl
  records record member := by simp [silent] at member

/-- The same without a look at the clock. -/
theorem steady_exchange
    {exchange : Exchange}
    (keeping : exchange.request.isKeeping = true)
    (silent : exchange.request.record? = none)
    (unclocked : exchange.clock? = none) :
    Steady execution [exchange] execution where
  toKept := kept_exchange keeping silent
  unclocked := by simp [unclocked]
  after_eq := ⟨_, _, _, rfl⟩

/-- Bringing the record up to date reads the time once and stores the record once. -/
theorem ends_sync
    {after : Execution}
    (ends : execution.sync.Ends history after) :
    ∃ now stored,
      history = [⟨.now, now⟩, ⟨.update (execution.tallied now), stored⟩] ∧
        after = { execution with record := execution.tallied now } := by
  obtain ⟨now, _, rfl, timed⟩ := Program.Ends.of_request ends
  obtain ⟨stored, _, rfl, updated⟩ := timed.of_request
  obtain ⟨rfl, rfl⟩ := updated.of_done
  exact ⟨now, stored, rfl, rfl⟩

/-- Only the record changes when it is brought up to date. -/
theorem steady_of_ends_sync
    {after : Execution}
    (ends : execution.sync.Ends history after) :
    Steady execution history after := by
  obtain ⟨now, stored, rfl, rfl⟩ := ends_sync ends
  refine ⟨⟨by simp [Request.isKeeping], rfl, rfl, rfl, rfl, rfl, ?_⟩, rfl, ⟨_, _, _, rfl⟩⟩
  intro record member
  obtain rfl : record = execution.tallied now := by simpa [Request.record?] using member
  exact ⟨rfl, rfl⟩

/-- A change of status is stored and announced, which is all that it does. -/
theorem steady_of_ends_change
    {status : ExecutionStatus}
    {kind : EventKind}
    {after : Execution}
    (ends : (execution.change status kind).Ends history after) :
    Steady execution history after := by
  obtain ⟨middle, _, _, rfl, synced, announced⟩ := Program.Ends.of_bind ends
  obtain ⟨⟨⟩, _, rfl, last⟩ := announced.of_request
  obtain ⟨rfl, rfl⟩ := last.of_done
  have marked : Steady execution []
      { execution with record := { execution.record with status := status } } :=
    (Steady.refl execution).set { execution.record with status := status } rfl _ _
  exact (marked.trans (steady_of_ends_sync synced)).trans (steady_exchange rfl rfl rfl)

end

/-! ## Endings -/

/-- An execution was brought to an end. -/
structure Closed
    (last : Execution)
    (ending : Ending)
    (history : History)
    (record : ExecutionRecord) : Prop where
  keeping : ∀ exchange ∈ history, exchange.request.isKeeping = true
  records : history.records = [record]
  accounted : record.accounted = (last.settled ending).schedule.accounted
  totalSteps : record.totalSteps = last.record.totalSteps
  status : record.status = ending.status
  output : record.output = last.context.executionData

namespace Closed

variable
  {last : Execution}
  {ending : Ending}
  {history : History}
  {record : ExecutionRecord}

/-- No attempt is recorded once an execution is being ended. -/
theorem attempts_eq_nil (closed : Closed last ending history record) : history.attempts = [] :=
  History.attempts_eq_nil closed.keeping fun {request} keeping => by
    cases request <;> first | rfl | cases keeping

/-- No handler is called once an execution is being ended. -/
theorem invocations_eq_nil (closed : Closed last ending history record) :
    history.invocations = [] :=
  History.invocations_eq_nil closed.keeping fun _ => rfl

end Closed

/-- An ending leaves the data as they are. -/
@[simp] theorem context_settled (execution : Execution) (ending : Ending) :
    (execution.settled ending).context = execution.context := by
  unfold settled
  split <;> rfl

@[simp] theorem record_settled (execution : Execution) (ending : Ending) :
    (execution.settled ending).record = execution.record := by
  unfold settled
  split <;> rfl

@[simp] theorem totalSteps_closingRecord
    (execution : Execution) (ending : Ending) (now : Timestamp) :
    (execution.closingRecord ending now).totalSteps = execution.record.totalSteps := by
  unfold closingRecord
  dsimp only
  split <;> rfl

/-- The closing record gives the data of the execution for its output. -/
@[simp] theorem output_closingRecord
    (execution : Execution) (ending : Ending) (now : Timestamp) :
    (execution.closingRecord ending now).output = execution.context.executionData := by
  unfold closingRecord
  dsimp only
  split <;> rfl

/-- To announce the end takes no call of a handler and stores no record. -/
theorem announceEnd_uses (execution : Execution) (status : ExecutionStatus) :
    (execution.announceEnd status).Uses
      (fun request => request.isKeeping && request.record?.isNone) := by
  unfold announceEnd
  split
  · exact ⟨rfl, fun _ => trivial⟩
  · trivial

section

variable
  {last : Execution}
  {ending : Ending}
  {history : History}
  {record : ExecutionRecord}

/-- How an execution is brought to an end, exchange by exchange. -/
theorem finalized_of_ends (ends : (last.finalize ending).Ends history record) :
    ∃ now later stored announced,
      history =
        [⟨.unregister last.context.executionId, ()⟩, ⟨.now, now⟩, ⟨.now, later⟩,
          ⟨.update record, stored⟩] ++ announced ∧
      record = Execution.tallied
        { last.settled ending with record := (last.settled ending).closingRecord ending now }
        later ∧
      (Execution.announceEnd { last.settled ending with record := record }
        ending.status).Ends announced () := by
  obtain ⟨⟨⟩, _, rfl, left⟩ := Program.Ends.of_request ends
  obtain ⟨now, _, rfl, timed⟩ := left.of_request
  obtain ⟨synced, _, _, rfl, syncing, announcing⟩ := timed.of_bind
  obtain ⟨later, stored, rfl, rfl⟩ := ends_sync syncing
  obtain ⟨⟨⟩, announced, _, rfl, announces, finished⟩ := announcing.of_bind
  obtain ⟨rfl, rfl⟩ := finished.of_done
  rw [List.append_nil]
  exact ⟨now, later, stored, announced, rfl, rfl, announces⟩

/-- Whoever finalizes an execution leaves the history of one that was closed. -/
theorem closed_of_ends
    (ends : (last.finalize ending).Ends history record) :
    Closed last ending history record := by
  obtain ⟨now, later, stored, announced, rfl, rfl, announces⟩ := finalized_of_ends ends
  have quiet := (announceEnd_uses _ _).of_mem announces
  have silent : History.records announced = [] :=
    History.records_eq_nil quiet fun {request} used =>
      Option.isNone_iff_eq_none.mp (Bool.and_eq_true_iff.mp used).2
  have keeping : ∀ exchange ∈ announced, exchange.request.isKeeping = true :=
    fun exchange member => (Bool.and_eq_true_iff.mp (quiet exchange member)).1
  refine ⟨?_, ?_, rfl, ?_, rfl, ?_⟩
  · simpa [Request.isKeeping] using keeping
  · simp [Request.record?, silent]
  · have kept := totalSteps_closingRecord (last.settled ending) ending now
    rwa [record_settled] at kept
  · have kept := output_closingRecord (last.settled ending) ending now
    rwa [context_settled] at kept

end

end Execution
end WorkflowEngine
