import WorkflowEngine.Proofs.VisitFrame
import WorkflowEngine.Proofs.Halting

/-!
# What executions make known

An execution makes known that it has paused, that it has gone on, and that it has
ended.  Pauses and resumptions take turns, however callers' requests are mixed with
its own, and the end comes once and last.  Only a cancellation may end an execution
that is paused.
-/

namespace WorkflowEngine

open Execution (Next Run)

/-! ## Words of events -/

/-- What is made known in an exchange. -/
def Exchange.event? : Exchange → Option Event
  | ⟨.announce event, _⟩ => some event
  | _ => none

/-- An execution makes known what says of itself what all its requests say. -/
theorem Exchange.identity_of_event?
    {made : Exchange}
    {event : Event}
    {identity : Identity}
    (carries : made.request.Carries identity)
    (told : made.event? = some event) :
    event.identity = identity := by
  obtain ⟨request, answer⟩ := made
  cases request with
  | announce other =>
    cases told
    exact carries
  | _ => cases told

namespace History

/-- What was made known, in order. -/
def events (history : History) : List Event := history.filterMap Exchange.event?

variable (exchange : Exchange) (first rest : History)

@[simp] theorem events_nil : events [] = [] := rfl

@[simp] theorem events_cons :
    events (exchange :: rest) = exchange.event?.toList ++ events rest := by
  cases shown : exchange.event? <;> simp [events, shown]

@[simp] theorem events_append : events (first ++ rest) = events first ++ events rest :=
  List.filterMap_append

/-- Requests that make nothing known leave no event behind. -/
theorem events_eq_nil
    {history : History}
    {kind : Request → Bool}
    (uses : ∀ exchange ∈ history, kind exchange.request = true)
    (silent : ∀ event, kind (.announce event) = false) :
    history.events = [] := by
  apply List.filterMap_eq_nil_iff.mpr
  rintro ⟨request, answer⟩ member
  have used := uses _ member
  cases request with
  | announce event => simp [silent] at used
  | _ => rfl

theorem identity_of_mem_events
    {history : History}
    {identity : Identity}
    (carries : ∀ exchange ∈ history, exchange.request.Carries identity) :
    ∀ event ∈ history.events, event.identity = identity := by
  intro event member
  obtain ⟨made, listed, told⟩ := List.mem_filterMap.mp member
  exact Exchange.identity_of_event? (carries made listed) told

end History

namespace Event

/-- An event tells of a pause. -/
structure IsPause (event : Event) : Prop where
  kind : event.kind = .paused
  status : event.status = .paused

/-- An event tells that an execution goes on after a pause. -/
structure IsResumption (event : Event) : Prop where
  kind : event.kind = .resumed
  status : event.status = .running

/-- An event tells of the end of an execution as its last record has it. -/
structure IsEnd (event : Event) (record : ExecutionRecord) : Prop where
  isTerminal : event.kind.isTerminal = true
  completed : event.kind = .completed ↔ record.status = .completed
  failed : event.kind = .failed ↔ record.status = .failed ∨ record.status = .timeout
  cancelled : event.kind = .cancelled ↔ record.status = .cancelled
  status : event.status = record.status
  metrics : event.metrics = record.metrics
  durationMs : event.durationMs = record.durationMs
  identity : event.identity = record.identity

/-- The event of a last status tells of the end. -/
theorem isEnd_ofRecord
    {kind : EventKind}
    {record : ExecutionRecord}
    (announces : EventKind.ofTerminal? record.status = some kind) :
    (ofRecord kind record).IsEnd record where
  isTerminal := by
    change kind.isTerminal = true
    cases status : record.status <;> rw [status] at announces <;> cases announces <;> rfl
  completed := by
    change kind = .completed ↔ _
    cases status : record.status <;> rw [status] at announces <;> cases announces <;> simp
  failed := by
    change kind = .failed ↔ _
    cases status : record.status <;> rw [status] at announces <;> cases announces <;> simp
  cancelled := by
    change kind = .cancelled ↔ _
    cases status : record.status <;> rw [status] at announces <;> cases announces <;> simp
  status := rfl
  metrics := rfl
  durationMs := rfl
  identity := rfl

end Event

/-- Pauses, and each of them with the resumption that follows it. -/
inductive Rounds : List Event → Prop
  | none : Rounds []
  | more
      {events : List Event}
      {pause resumption : Event}
      (rounds : Rounds events)
      (paused : pause.IsPause)
      (resumed : resumption.IsResumption) :
      Rounds (events ++ [pause, resumption])

/-- All that an execution with some last record makes known. -/
inductive Told (record : ExecutionRecord) : List Event → Prop
  | ended
      {events : List Event}
      {last : Event}
      (rounds : Rounds events)
      (ends : last.IsEnd record) :
      Told record (events ++ [last])
  | cancelled
      {events : List Event}
      {pause last : Event}
      (rounds : Rounds events)
      (paused : pause.IsPause)
      (ends : last.IsEnd record)
      (cancelled : last.kind = .cancelled) :
      Told record (events ++ [pause, last])

/-- What an execution has made known that goes on, and that is paused or not. -/
inductive Standing : Bool → List Event → Prop
  | running {events : List Event} (rounds : Rounds events) : Standing false events
  | paused
      {events : List Event}
      {pause : Event}
      (rounds : Rounds events)
      (paused : pause.IsPause) :
      Standing true (events ++ [pause])

section

variable {record : ExecutionRecord} {events : List Event} {last : Event}

/-- An execution that is paused can only be cancelled. -/
theorem Standing.told
    {isPaused : Bool}
    (standing : Standing isPaused events)
    (ends : last.IsEnd record)
    (cancelled : isPaused = true → record.status = .cancelled) :
    Told record (events ++ [last]) := by
  cases standing with
  | running rounds => exact .ended rounds ends
  | paused rounds paused =>
    rw [List.append_assoc]
    exact .cancelled rounds paused ends (ends.cancelled.mpr (cancelled rfl))

/-- As long as an execution goes on, it may still be cancelled. -/
theorem Standing.exists_told
    {isPaused : Bool}
    (standing : Standing isPaused events) :
    ∃ rest record, Told record (events ++ rest) := by
  let record : ExecutionRecord := { (default : ExecutionRecord) with status := .cancelled }
  have ends : (Event.ofRecord .cancelled record).IsEnd record := Event.isEnd_ofRecord rfl
  exact ⟨_, _, standing.told ends fun _ => rfl⟩

end

namespace Execution

/-! ## Turns -/

section

variable {execution : Execution} {history : History} {result : Execution × Flow}

/-- A step makes nothing known, and it neither pauses an execution nor resumes it. -/
theorem silent_of_ends_step
    (ends : execution.step.Ends history result) :
    history.events = [] ∧ result.1.isPaused = execution.isPaused := by
  unfold step at ends
  split at ends
  next =>
    obtain ⟨rfl, rfl⟩ := ends.of_done
    exact ⟨rfl, rfl⟩
  next step current =>
    obtain ⟨clock, _, rfl, timed⟩ := Program.Ends.of_request ends
    split at timed
    next =>
      obtain ⟨rfl, rfl⟩ := timed.of_done
      exact ⟨rfl, rfl⟩
    next =>
      obtain ⟨middle, visit, _, rfl, visiting, syncing⟩ := timed.of_bind
      obtain ⟨last, _, _, rfl, synced, finished⟩ := syncing.of_bind
      obtain ⟨rfl, rfl⟩ := finished.of_done
      obtain ⟨now, stored, rfl, rfl⟩ := ends_sync synced
      have silent : History.events visit = [] :=
        History.events_eq_nil ((runStep_uses _ _).of_mem visiting) fun _ => rfl
      refine ⟨by simp [silent, Exchange.event?], ?_⟩
      exact (visited_of_ends visiting).revised.isPaused_eq

/-- A change of the status is made known with the new status, and with nothing else. -/
theorem event_of_ends_change
    {status : ExecutionStatus}
    {kind : EventKind}
    {after : Execution}
    (ends : (execution.change status kind).Ends history after) :
    ∃ event, history.events = [event] ∧ event.kind = kind ∧ event.status = status ∧
      after.isPaused = execution.isPaused := by
  obtain ⟨middle, _, _, rfl, synced, announced⟩ := Program.Ends.of_bind ends
  obtain ⟨⟨⟩, _, rfl, last⟩ := announced.of_request
  obtain ⟨rfl, rfl⟩ := last.of_done
  obtain ⟨now, stored, rfl, rfl⟩ := ends_sync synced
  exact ⟨_, rfl, rfl, rfl, rfl⟩

/-- A turn keeps pauses and resumptions in order.  If it ends an execution that is
paused, then by a cancellation. -/
theorem standing_of_ends
    {events : List Event}
    (standing : Standing execution.isPaused events)
    (ends : execution.activity.Ends history result) :
    Standing result.1.isPaused (events ++ history.events) ∧
      ∀ ending, result.2 = .finish ending → result.1.isPaused = true →
        ending.status = .cancelled := by
  unfold activity at ends
  split at ends
  next isPaused =>
    obtain ⟨heard, rest, rfl, continued⟩ := Program.Ends.of_request ends
    -- Nothing is made known unless the execution is resumed.
    have silent (same : result.1.isPaused = true) (quiet : History.events rest = []) :
        Standing result.1.isPaused
          (events ++ History.events (⟨.listen execution.listener, heard⟩ :: rest)) := by
      rw [same, ← isPaused]
      simpa [Exchange.event?, quiet] using standing
    cases heard with
    | silence signal =>
      cases signal <;> obtain ⟨rfl, rfl⟩ := continued.of_done <;>
        exact ⟨silent isPaused rfl, by rintro _ ⟨⟩ _; rfl⟩
    | news signal listener =>
      cases signal with
      | pause =>
        obtain ⟨rfl, rfl⟩ := continued.of_done
        exact ⟨silent isPaused rfl, by rintro _ ⟨⟩⟩
      | cancel reason =>
        obtain ⟨rfl, rfl⟩ := continued.of_done
        exact ⟨silent isPaused rfl, by rintro _ ⟨⟩ _; rfl⟩
      | run =>
        obtain ⟨resumed, _, _, rfl, changed, stepped⟩ := Program.Ends.of_bind continued
        obtain ⟨event, told, kind, status, same⟩ := event_of_ends_change changed
        obtain ⟨quiet, unchanged⟩ := silent_of_ends_step stepped
        have running : result.1.isPaused = false := unchanged.trans same
        rw [running]
        refine ⟨?_, nofun⟩
        rw [isPaused] at standing
        cases standing with
        | paused rounds paused =>
          simp only [History.events_cons, History.events_append, told, quiet, Exchange.event?,
            Option.toList_none, List.nil_append, List.append_nil, List.append_assoc,
            List.singleton_append]
          exact .running (rounds.more paused ⟨kind, status⟩)
  next isRunning =>
    have isRunning : execution.isPaused = false := Bool.eq_false_iff.mpr isRunning
    obtain ⟨⟨signal, listener⟩, rest, rfl, continued⟩ := Program.Ends.of_request ends
    cases signal with
    | run =>
      obtain ⟨quiet, unchanged⟩ := silent_of_ends_step continued
      have running : result.1.isPaused = false := unchanged.trans isRunning
      rw [running]
      rw [isRunning] at standing
      refine ⟨?_, nofun⟩
      simpa [Exchange.event?, quiet] using standing
    | cancel reason =>
      obtain ⟨rfl, rfl⟩ := continued.of_done
      refine ⟨?_, by rintro _ ⟨⟩ _; rfl⟩
      simpa [Exchange.event?] using standing
    | pause =>
      obtain ⟨changed, _, _, rfl, changing, finished⟩ := Program.Ends.of_bind continued
      obtain ⟨rfl, rfl⟩ := finished.of_done
      obtain ⟨event, told, kind, status, -⟩ := event_of_ends_change changing
      refine ⟨?_, by rintro _ ⟨⟩⟩
      rw [isRunning] at standing
      cases standing with
      | running rounds =>
        simp only [History.events_cons, told, Exchange.event?, Option.toList_none,
          List.nil_append, List.append_nil]
        exact .paused rounds ⟨kind, status⟩

/-- The end of an execution is made known once, as its last record has it. -/
theorem event_of_ends_finalize
    {ending : Ending}
    {record : ExecutionRecord}
    (ends : (execution.finalize ending).Ends history record) :
    ∃ last, history.events = [last] ∧ last.IsEnd record := by
  have status := (closed_of_ends ends).status
  obtain ⟨now, later, stored, announced, rfl, rfl, announces⟩ := finalized_of_ends ends
  unfold announceEnd at announces
  split at announces
  next kind terminal =>
    obtain ⟨⟨⟩, _, rfl, last⟩ := Program.Ends.of_request announces
    obtain ⟨rfl, -⟩ := last.of_done
    refine ⟨_, rfl, Event.isEnd_ofRecord ?_⟩
    rw [status]
    exact terminal
  next missing =>
    have terminal := EventKind.ofTerminal?_isSome ending.status
    simp [missing] at terminal

end

/-! ## Runs -/

section

variable
  {environment : Environment}
  {workflow : Workflow}
  {call : Call}
  {history : History}

/-- Nothing is made known while an execution starts, or when it is refused. -/
theorem events_of_ends_start
    {next : Next}
    (ends : (start environment workflow call).Ends history next) :
    history.events = [] ∧ ∀ execution, next = .turn execution → execution.isPaused = false := by
  cases starts_of_ends ends with
  | rejected | unstored =>
    refine ⟨rfl, ?_⟩
    rintro _ ⟨⟩
  | admitted syncing =>
    obtain ⟨later, synced, rfl, rfl⟩ := ends_sync syncing
    refine ⟨rfl, ?_⟩
    rintro _ ⟨⟩
    rfl

/-- Neither is anything made known when the workflow is not found. -/
theorem events_of_refused_known
    {id : String}
    {error : EngineError}
    (ends : (startKnown environment id call).Ends history (.refused error)) :
    history.events = [] := by
  obtain ⟨found, _, rfl, continued⟩ := Program.Ends.of_request ends
  cases found with
  | none =>
    obtain ⟨rfl, -⟩ := continued.of_done
    rfl
  | some workflow => exact (events_of_ends_start continued).1

/-- Or when the workflow is not valid. -/
theorem events_of_refused_given
    {error : EngineError}
    (ends : (startGiven environment workflow call).Ends history (.refused error)) :
    history.events = [] := by
  unfold startGiven at ends
  split at ends
  next => exact (events_of_ends_start ends).1
  next =>
    obtain ⟨rfl, -⟩ := ends.of_done
    rfl

namespace Run

theorem standing
    {execution : Execution}
    (run : Run environment workflow call history (.done (.turn execution))) :
    Standing execution.isPaused history.events := by
  apply run.invariant_of_ends
  · intro history execution begun
    obtain ⟨silent, running⟩ := events_of_ends_start begun
    rw [silent, running execution rfl]
    exact .running .none
  · intro past history execution after _ standing acted
    rw [History.events_append]
    exact (standing_of_ends standing acted).1

theorem told
    {record : ExecutionRecord}
    (run : Run environment workflow call history (.done (.ended record))) :
    Told record history.events := by
  obtain ⟨past, execution, acting, last, ending, closing, rfl, past, acted, closed⟩ :=
    run.last_turn
  obtain ⟨standing, cancelled⟩ := standing_of_ends past.standing acted
  obtain ⟨event, told, ends⟩ := event_of_ends_finalize closed
  rw [History.events_append, History.events_append, told]
  refine standing.told ends fun isPaused => ?_
  rw [(closed_of_ends closed).status]
  exact cancelled ending rfl isPaused

theorem events_eq_nil_of_refused
    {error : EngineError}
    (run : Run environment workflow call history (.done (.refused error))) :
    history.events = [] :=
  (events_of_ends_start run.ends_of_refused).1

/-- Wherever a run has come to, it has told the beginning of what it may tell. -/
theorem exists_told
    {now : Program Next}
    (run : Run environment workflow call history now) :
    ∃ rest record, Told record (history.events ++ rest) := by
  obtain ⟨later, next, ended⟩ := run.exists_ends
  obtain ⟨rest, record, told⟩ :
      ∃ rest record, Told record ((history ++ later).events ++ rest) := by
    cases next with
    | refused error =>
      rw [ended.events_eq_nil_of_refused]
      exact (Standing.running .none).exists_told
    | turn execution => exact ended.standing.exists_told
    | ended record => exact ⟨[], record, by simpa using ended.told⟩
  rw [History.events_append, List.append_assoc] at told
  exact ⟨_, record, told⟩

end Run

end

end Execution

/-! ## Executions of an engine -/

section

variable {moves : List Move} {fleet : Fleet} {job : Nat} {order : Order}

/-- What an execution of an engine makes known, however executions and callers are
interleaved.  Every event bears its identity.  When it ends, it has told of pauses
that were followed by resumptions, at most of one more pause before a cancellation,
and last of its end as its record has it; until then it has told the beginning of
that.  An execution that is refused tells nothing. -/
theorem Path.events_told
    (path : Path moves fleet)
    (ordered : (orders moves)[job]? = some order) :
    (∀ event ∈ (historyOf job moves).events, event.identity = order.identity) ∧
      (∀ record, fleet.jobs[job]? = some (.done (.ended record)) →
        Told record (historyOf job moves).events) ∧
      (∀ error, fleet.jobs[job]? = some (.done (.refused error)) →
        (historyOf job moves).events = []) ∧
      (∃ rest record, Told record ((historyOf job moves).events ++ rest)) ∧
      ∀ {id history error},
        (Execution.startKnown order.environment id order.call).Ends history (.refused error) ∨
          (Execution.startGiven order.environment order.workflow order.call).Ends history
            (.refused error) →
        history.events = [] := by
  have present : job < fleet.jobs.length := by
    rw [path.tracks.length_eq]
    exact (List.getElem?_eq_some_iff.mp ordered).1
  have run := path.run_of_ordered ordered (List.getElem?_eq_getElem present)
  refine ⟨?_, fun record ended => (path.run_of_ordered ordered ended).told,
    fun error refused => (path.run_of_ordered ordered refused).events_eq_nil_of_refused,
    run.exists_told, ?_⟩
  · exact History.identity_of_mem_events run.follows_phase.2
  · rintro id history error (known | given)
    · exact Execution.events_of_refused_known known
    · exact Execution.events_of_refused_given given

end

/-- An execution that is paused, resumed, paused again behind its only step, and then
cancelled. -/
theorem told_of_cancelled_pause :
    ∃ moves fleet record,
      Path moves fleet ∧
      orders moves = [.single] ∧
      fleet.jobs[0]? = some (.done (.ended record)) ∧
      Told record (historyOf 0 moves).events ∧
      (historyOf 0 moves).events.map Event.kind = [.paused, .resumed, .paused, .cancelled] := by
  have path := Path.start.follow
    (.call .single :: Choice.goOn 0 8 ++ [.grant "run" .pause] ++ Choice.goOn 0 5 ++
      [.grant "run" .run] ++ Choice.goOn 0 14 ++ [.grant "run" .pause] ++ Choice.goOn 0 6 ++
      [.grant "run" (.cancel (some "operator"))] ++ Choice.goOn 0 6)
  obtain ⟨moves, fleet, record, path, ordered, ended, kinds⟩ :
      ∃ moves fleet record,
        Path moves fleet ∧
        orders moves = [.single] ∧
        fleet.jobs[0]? = some (.done (.ended record)) ∧
        (historyOf 0 moves).events.map Event.kind = [.paused, .resumed, .paused, .cancelled] :=
    ⟨_, _, _, path, rfl, rfl, rfl⟩
  have first : (orders moves)[0]? = some .single := by
    rw [ordered]
    rfl
  exact ⟨moves, fleet, record, path, ordered, ended,
    (path.events_told first).2.1 record ended, kinds⟩

end WorkflowEngine
