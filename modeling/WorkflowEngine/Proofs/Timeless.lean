import WorkflowEngine.Proofs.Announcements

/-!
# Apart from time

When something happened, how long it took and what it used of the machine differ from
one execution to the next.  A record, an attempt or an event is timeless once all of
that is blotted out.  Two accounts that are then equal tell the same story.
-/

namespace WorkflowEngine

/-! ## Accounts -/

/-- The metrics that are read from the machine. -/
def measuredKeys : List String := ["averageCpu", "peakMemoryMb"]

/-- Metrics without those that are read from the machine. -/
def unmeasured (metrics : Object) : Object :=
  metrics.filter fun entry => entry.1 ∉ measuredKeys

/-- What is read from the machine leaves the other metrics alone. -/
theorem unmeasured_insert
    {key : String}
    (measured : key ∈ measuredKeys)
    (value : Json)
    (metrics : Object) :
    unmeasured (Dict.insert key value metrics) = unmeasured metrics := by
  induction metrics with
  | nil => simp [unmeasured, measured]
  | cons entry rest inductionHypothesis =>
    obtain ⟨other, old⟩ := entry
    unfold Dict.insert
    unfold unmeasured at inductionHypothesis ⊢
    split
    next same =>
      subst same
      simp [measured]
    next =>
      split
      next => simp [measured]
      next => simp only [List.filter_cons, inductionHypothesis]

namespace ExecutionRecord

/-- A record without its times. -/
def undated (record : ExecutionRecord) : ExecutionRecord :=
  { record with
    startedAt := .epoch
    updatedAt := .epoch
    completedAt := record.completedAt.map fun _ => .epoch
    durationMs := record.durationMs.map fun _ => 0 }

/-- A record without its times and without what was read from the machine. -/
def timeless (record : ExecutionRecord) : ExecutionRecord :=
  { record.undated with metrics := unmeasured record.metrics }

/-- Records that differ in their dates alone are the same apart from time. -/
theorem timeless_eq_of_undated_eq
    {first second : ExecutionRecord}
    (undated : first.undated = second.undated) :
    first.timeless = second.timeless := by
  have metrics : first.undated.metrics = second.undated.metrics := by rw [undated]
  calc first.timeless
      = { first.undated with metrics := unmeasured first.undated.metrics } := rfl
    _ = { second.undated with metrics := unmeasured second.undated.metrics } := by
      rw [metrics, undated]
    _ = second.timeless := rfl

end ExecutionRecord

/-- An attempt without its times and without what it used of the machine. -/
def StepRecord.timeless (record : StepRecord) : StepRecord :=
  { record with
    startedAt := .epoch
    completedAt := .epoch
    durationMs := 0
    resourceUsage := none }

/-- An event without its duration and without what was read from the machine. -/
def Event.timeless (event : Event) : Event :=
  { event with
    durationMs := event.durationMs.map fun _ => 0
    metrics := unmeasured event.metrics }

@[simp] theorem Event.timeless_ofRecord (kind : EventKind) (record : ExecutionRecord) :
    (Event.ofRecord kind record).timeless = Event.ofRecord kind record.timeless := rfl

/-- An outcome without its duration. -/
def Outcome.timeless (outcome : Outcome) : Outcome := { outcome with duration := .zero }

/-- A branch without its start and its duration. -/
def Branch.timeless : Branch → Branch
  | .skipped step => .skipped step
  | .ran step input _ outcome => .ran step input .epoch outcome.timeless

/-- A further attempt without its start and its duration. -/
def Attempt.timeless (attempt : Attempt) : Attempt :=
  { attempt with startedAt := .epoch, outcome := attempt.outcome.timeless }

/-- Further attempts without their starts and durations. -/
def Retried.timeless (retried : Retried) : Retried where
  attempts := retried.attempts.map Attempt.timeless
  outcome := retried.outcome.map Outcome.timeless

/-- Outcomes that tell the same differ in their durations alone. -/
theorem Outcome.exists_eq_of_timeless_eq
    {first second : Outcome}
    (same : first.timeless = second.timeless) :
    ∃ duration, second = { first with duration } := by
  refine ⟨second.duration, ?_⟩
  have result : first.timeless.result = second.timeless.result := by rw [same]
  have raised : first.timeless.raised = second.timeless.raised := by rw [same]
  unfold timeless at result raised
  rw [result, raised]

theorem Outcome.succeeded_eq_of_timeless_eq
    {first second : Outcome}
    (same : first.timeless = second.timeless) :
    second.succeeded = first.succeeded := by
  obtain ⟨duration, rfl⟩ := exists_eq_of_timeless_eq same
  rfl

@[simp] theorem Retried.timeless_cons (rest : Retried) (attempt : Attempt) :
    (rest.cons attempt).timeless = rest.timeless.cons attempt.timeless := rfl

/-! ## Requests -/

/-- What a request comes to when it is no matter when it is made, and to whom it
listens. -/
def Request.timeless : Request → Request
  | .signal _ => .signal { channel := 0 }
  | .listen _ => .listen { channel := 0 }
  | .create record => .create record.timeless
  | .update record => .update record.timeless
  | .append record => .append record.timeless
  | .announce event => .announce event.timeless
  | .wait _ => .wait 0
  | request => request

namespace Request

/-- The attempt in a request loses its times with the request. -/
theorem attempt?_timeless (request : Request) :
    request.timeless.attempt? = request.attempt?.map StepRecord.timeless := by
  cases request <;> rfl

/-- The event that a request makes known. -/
def event? : Request → Option Event
  | .announce event => some event
  | _ => none

/-- So does the event. -/
theorem event?_timeless (request : Request) :
    request.timeless.event? = request.event?.map Event.timeless := by
  cases request <;> rfl

end Request

namespace History

/-- The requests of a history, without their times. -/
def requests (history : History) : List Request :=
  history.map fun exchange => exchange.request.timeless

variable (exchange : Exchange) (first rest : History)

@[simp] theorem requests_nil : requests [] = [] := rfl

@[simp] theorem requests_cons :
    requests (exchange :: rest) = exchange.request.timeless :: requests rest := rfl

@[simp] theorem requests_append : requests (first ++ rest) = requests first ++ requests rest :=
  List.map_append

/-- The attempts of a history show in its requests. -/
theorem timeless_attempts (history : History) :
    history.attempts.map StepRecord.timeless = history.requests.filterMap Request.attempt? := by
  simp only [attempts, requests, List.map_filterMap, List.filterMap_map, Function.comp_def,
    Request.attempt?_timeless]

/-- The events of a history show in its requests. -/
theorem timeless_events (history : History) :
    history.events.map Event.timeless = history.requests.filterMap Request.event? := by
  have shown (exchange : Exchange) : exchange.event? = exchange.request.event? := by
    obtain ⟨request, answer⟩ := exchange
    cases request <;> rfl
  simp only [events, requests, shown, List.map_filterMap, List.filterMap_map, Function.comp_def,
    Request.event?_timeless]

end History
end WorkflowEngine
