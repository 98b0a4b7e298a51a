import WorkflowEngine.Proofs.CriticalStep
import WorkflowEngine.Proofs.MainLineTour

/-!
# Last records

The record of an execution stays open for as long as the execution goes on.  An ending
closes it, with a last status, an error and the step at fault that go together.  That step
has failed, unless the time was up just before its dispatch: then nothing is noted of it
that was not noted before.
-/

namespace WorkflowEngine

namespace ExecutionRecord

/-- The record of an execution that goes on. -/
structure IsOpen (record : ExecutionRecord) : Prop where
  isTerminal : record.status.isTerminal = false
  errorCode : record.errorCode = none
  errorMessage : record.errorMessage = none
  failedStep : record.failedStep = none

/-- A record has an ending to tell of that came within or behind a time limit. -/
structure TellsOf (record : ExecutionRecord) (ending : Ending) (limit : Span) : Prop where
  status : record.status = ending.status
  errorCode : record.errorCode = (ending.error? limit).map EngineError.code
  errorMessage : record.errorMessage = (ending.error? limit).map EngineError.message
  failedStep : record.failedStep = ending.step?

/-- The last status of a record, its error and the step at fault go together. -/
structure IsCoherent (record : ExecutionRecord) (workflow : Workflow) : Prop where
  isTerminal : record.status.isTerminal = true
  completed : record.status = .completed ↔
    record.errorCode = none ∧ record.errorMessage = none ∧ record.failedStep = none
  failed : record.status = .failed →
    (record.errorCode = some "STEP_EXECUTION_ERROR" ∨
      record.errorCode = some "CONDITION_EVALUATION_ERROR") ∧
    ∃ step, workflow.IsOnMainLine step ∧ record.failedStep = some step.id
  timeout : record.status = .timeout ↔ record.errorCode = some "TIMEOUT_ERROR"
  cancelled : record.status = .cancelled ↔ record.errorCode = some "CANCELLATION_ERROR"
  faultless : record.status = .cancelled → record.failedStep = none

/-- Only a step on the main line may make a record incoherent, and only if it fails. -/
theorem TellsOf.isCoherent
    {record : ExecutionRecord}
    {ending : Ending}
    {limit : Span}
    {workflow : Workflow}
    (tells : record.TellsOf ending limit)
    (fault : ∀ id cause, ending = .failed id cause →
      ∃ step, workflow.IsOnMainLine step ∧ step.id = id) :
    record.IsCoherent workflow := by
  obtain ⟨status, code, message, failedStep⟩ := tells
  cases ending with
  | failed id cause =>
    obtain ⟨step, mainLine, rfl⟩ := fault id cause rfl
    have named : ∃ other, workflow.IsOnMainLine other ∧ record.failedStep = some other.id :=
      ⟨step, mainLine, failedStep⟩
    cases cause <;> constructor <;> simp [status, code, message, named, Ending.status,
      Ending.error?, EngineError.code, ExecutionStatus.isTerminal]
  | _ =>
    constructor <;> simp [status, code, message, failedStep, Ending.status, Ending.error?,
      EngineError.code, ExecutionStatus.isTerminal, Ending.step?]

end ExecutionRecord

/-- An ending without an error has no step at fault. -/
theorem Ending.step?_eq_none
    {ending : Ending}
    {limit : Span}
    (faultless : ending.error? limit = none) :
    ending.step? = none := by
  cases ending with
  | failed _ cause => cases cause <;> cases faultless
  | timedOut => cases faultless
  | _ => rfl

namespace Schedule

/-- A step that is not accounted for at the end is skipped. -/
theorem find?_skipRest_of_mem
    {step : Step}
    {steps : List Step}
    (member : step ∈ steps)
    {outcomes : Dict StepOutcome}
    (unnoted : Dict.find? step.id outcomes = none) :
    Dict.find? step.id (skipRest steps outcomes) = some .skipped := by
  induction steps generalizing outcomes with
  | nil => cases member
  | cons first rest inductionHypothesis =>
    unfold skipRest
    by_cases same : step.id = first.id
    · rw [← same, unnoted, Option.isSome_none, if_neg Bool.false_ne_true]
      exact find?_skipRest rest (Dict.find?_insert_self step.id .skipped outcomes)
    · have member : step ∈ rest :=
        (List.mem_cons.mp member).resolve_left fun here => same (congrArg Step.id here)
      split
      · exact inductionHypothesis member unnoted
      · exact inductionHypothesis member (by rwa [Dict.find?_insert_of_ne same])

/-- At the end a step keeps its outcome, and it is skipped if it has none. -/
theorem outcome?_finish
    {schedule : Schedule}
    {step : Step}
    (member : step ∈ schedule.steps) :
    schedule.finish.outcome? step.id = some ((schedule.outcome? step.id).getD .skipped) := by
  cases noted : schedule.outcome? step.id with
  | none => exact find?_skipRest_of_mem member noted
  | some outcome => exact find?_skipRest schedule.steps noted

end Schedule

namespace Execution

/-! ## Open records -/

/-- An execution has stored no record that is not open, and its own record is open. -/
structure StaysOpen (history : History) (execution : Execution) : Prop where
  stored : ∀ record ∈ history.records, record.IsOpen
  isOpen : execution.record.IsOpen

section

variable {execution after : Execution} {past history : History} {result : Execution × Flow}

theorem StaysOpen.nil (isOpen : execution.record.IsOpen) : StaysOpen [] execution where
  stored := by simp
  isOpen := isOpen

/-- A request that stores no record leaves all of them open. -/
theorem StaysOpen.cons
    {exchange : Exchange}
    (unstored : exchange.request.record? = none)
    (stays : StaysOpen history after) :
    StaysOpen (exchange :: history) after where
  stored := by simpa [unstored] using stays.stored
  isOpen := stays.isOpen

/-- Records that are open on the way are open altogether. -/
theorem StaysOpen.append
    (stored : ∀ record ∈ past.records, record.IsOpen)
    (stays : StaysOpen history after) :
    StaysOpen (past ++ history) after where
  stored := by
    rw [History.records_append]
    exact List.forall_mem_append.mpr ⟨stored, stays.stored⟩
  isOpen := stays.isOpen

/-- Bringing a record up to date does not close it. -/
theorem staysOpen_of_ends_sync
    (isOpen : execution.record.IsOpen)
    (ends : execution.sync.Ends history after) :
    StaysOpen history after := by
  obtain ⟨now, stored, rfl, rfl⟩ := ends_sync ends
  have tallied : (execution.tallied now).IsOpen :=
    ⟨isOpen.isTerminal, isOpen.errorCode, isOpen.errorMessage, isOpen.failedStep⟩
  exact ⟨by simpa [Request.record?] using tallied, tallied⟩

/-- A change to a status that is no end does not close a record. -/
theorem staysOpen_of_ends_change
    {status : ExecutionStatus}
    {kind : EventKind}
    (isOpen : execution.record.IsOpen)
    (goesOn : status.isTerminal = false)
    (ends : (execution.change status kind).Ends history after) :
    StaysOpen history after := by
  obtain ⟨middle, _, _, rfl, synced, announced⟩ := Program.Ends.of_bind ends
  obtain ⟨⟨⟩, _, rfl, last⟩ := announced.of_request
  obtain ⟨rfl, rfl⟩ := last.of_done
  have marked : { execution.record with status := status }.IsOpen :=
    ⟨goesOn, isOpen.errorCode, isOpen.errorMessage, isOpen.failedStep⟩
  have stays := staysOpen_of_ends_sync (by exact marked) synced
  exact ⟨by simpa [Request.record?] using stays.stored, stays.isOpen⟩

/-- A step of the main line does not close a record, even if it is the last one. -/
theorem staysOpen_of_ends_step
    (isOpen : execution.record.IsOpen)
    (ends : execution.step.Ends history result) :
    StaysOpen history result.1 := by
  unfold step at ends
  split at ends
  next =>
    obtain ⟨rfl, rfl⟩ := ends.of_done
    exact .nil isOpen
  next step current =>
    obtain ⟨clock, _, rfl, timed⟩ := Program.Ends.of_request ends
    split at timed
    next =>
      obtain ⟨rfl, rfl⟩ := timed.of_done
      exact .cons rfl (.nil isOpen)
    next =>
      obtain ⟨middle, visit, _, rfl, visiting, syncing⟩ := timed.of_bind
      obtain ⟨last, _, _, rfl, synced, finished⟩ := syncing.of_bind
      obtain ⟨rfl, rfl⟩ := finished.of_done
      -- A visit stores nothing, so what is stored comes from the update behind it.
      have silent : History.records visit = [] :=
        History.records_eq_nil ((runStep_uses _ _).of_mem visiting) fun {request} visit => by
          cases request <;> first | rfl | cases visit
      have marked : middle.1.record.IsOpen := by
        rw [(visited_of_ends visiting).revised.record_eq]
        exact ⟨isOpen.isTerminal, isOpen.errorCode, isOpen.errorMessage, isOpen.failedStep⟩
      have stays := staysOpen_of_ends_sync marked synced
      exact ⟨by simpa [Request.record?, silent] using stays.stored, stays.isOpen⟩

/-- A turn that goes on leaves the record open, and one that is to end the execution has not
closed it yet. -/
theorem staysOpen_of_ends
    (isOpen : execution.record.IsOpen)
    (ends : execution.activity.Ends history result) :
    StaysOpen history result.1 := by
  unfold activity at ends
  split at ends
  next =>
    obtain ⟨heard, rest, rfl, continued⟩ := Program.Ends.of_request ends
    refine .cons rfl ?_
    cases heard with
    | silence signal =>
      cases signal <;> obtain ⟨rfl, rfl⟩ := continued.of_done <;> exact .nil isOpen
    | news signal listener =>
      cases signal with
      | pause | cancel =>
        obtain ⟨rfl, rfl⟩ := continued.of_done
        exact .nil isOpen
      | run =>
        obtain ⟨resumed, _, _, rfl, changed, stepped⟩ := Program.Ends.of_bind continued
        have stays := staysOpen_of_ends_change (by exact isOpen) rfl changed
        exact .append stays.stored (staysOpen_of_ends_step stays.isOpen stepped)
  next =>
    obtain ⟨⟨signal, listener⟩, rest, rfl, continued⟩ := Program.Ends.of_request ends
    refine .cons rfl ?_
    cases signal with
    | run => exact staysOpen_of_ends_step (by exact isOpen) continued
    | cancel reason =>
      obtain ⟨rfl, rfl⟩ := continued.of_done
      exact .nil isOpen
    | pause =>
      obtain ⟨changed, _, _, rfl, changing, finished⟩ := Program.Ends.of_bind continued
      obtain ⟨rfl, rfl⟩ := finished.of_done
      have stays := staysOpen_of_ends_change (by exact isOpen) rfl changing
      rw [List.append_nil]
      exact ⟨stays.stored, stays.isOpen⟩

/-- Between two turns the record is open, and so are all that were stored. -/
theorem Run.staysOpen
    {environment : Environment}
    {workflow : Workflow}
    {call : Call}
    (run : Run environment workflow call history (.done (.turn execution))) :
    StaysOpen history execution := by
  apply run.invariant_of_ends
  · intro history execution begun
    cases starts_of_ends begun with
    | @admitted clock listener now synced _ syncing =>
      have created : (created environment workflow call now).IsOpen := ⟨rfl, rfl, rfl, rfl⟩
      refine .append ?_ (staysOpen_of_ends_sync ⟨rfl, rfl, rfl, rfl⟩ syncing)
      simpa [admission, Request.record?] using created
  · intro past history execution after _ stays acted
    exact .append stays.stored (staysOpen_of_ends stays.isOpen acted)

/-! ## Closed records -/

/-- The closing record tells of the ending, and of nothing before it. -/
theorem tellsOf_closingRecord
    (isOpen : execution.record.IsOpen)
    (ending : Ending)
    (now : Timestamp) :
    (execution.closingRecord ending now).TellsOf ending execution.context.timeout := by
  unfold closingRecord
  dsimp only
  split
  next error known => exact ⟨rfl, by rw [known]; rfl, by rw [known]; rfl, rfl⟩
  next faultless =>
    refine ⟨rfl, ?_, ?_, ?_⟩
    · rw [faultless]
      exact isOpen.errorCode
    · rw [faultless]
      exact isOpen.errorMessage
    · rw [Ending.step?_eq_none faultless]
      exact isOpen.failedStep

/-- The last record of an execution tells of its ending, and of the last outcomes of its
steps. -/
theorem tellsOf_of_ends
    {ending : Ending}
    {record : ExecutionRecord}
    (isOpen : execution.record.IsOpen)
    (ends : (execution.finalize ending).Ends history record) :
    record.TellsOf ending execution.context.timeout ∧
      record.failedSteps = (execution.settled ending).schedule.countOf .failed := by
  obtain ⟨now, later, _, _, _, rfl, -⟩ := finalized_of_ends ends
  have settled : (execution.settled ending).record.IsOpen := by rwa [record_settled]
  have tells := tellsOf_closingRecord settled ending now
  rw [context_settled] at tells
  exact ⟨⟨tells.status, tells.errorCode, tells.errorMessage, tells.failedStep⟩, rfl⟩

end

/-! ## Steps at fault -/

/-- The time is up at the look at the clock before a step is dispatched. -/
def isLateFor (execution : Execution) (step : Step) (clocks : List Span) : Bool :=
  match execution.conditionsOf step, step.resolveInput execution.context with
  | .ok true, .ok _ => clocks.head?.any fun clock => (execution.remaining? clock).isNone
  | _, _ => false

/-- In a turn with some looks at the clock, an execution enters a step in time, and has no
time left to dispatch it. -/
def entersLate (execution : Execution) (clocks : List Span) : Bool :=
  (execution.entered? clocks).any fun step => execution.isLateFor step clocks.tail

section

variable
  {step : Step}
  {input : Object}
  {before after : Execution}
  {history : History}
  {ending : Ending}
  {id : String}

/-- A steady execution is late for a step as it was before. -/
theorem Steady.isLateFor_eq
    (steady : Steady before history after)
    (step : Step)
    (clocks : List Span) :
    after.isLateFor step clocks = before.isLateFor step clocks := by
  obtain ⟨_, _, _, rfl⟩ := steady.after_eq
  rfl

theorem outcome?_note (execution : Execution) (id : String) (outcome : StepOutcome) :
    (execution.note id outcome).schedule.outcome? id = some outcome :=
  Schedule.outcome?_record_self _ _ _

/-- An execution that ends behind a success has no step at fault. -/
theorem step?_of_succeed
    {outcome : Outcome}
    (ends : before.succeed step outcome = (after, .finish ending)) :
    ending.step? = none := by
  obtain ⟨unfailed, timely⟩ := flow_succeed before step outcome
  rw [ends] at unfailed timely
  cases ending with
  | failed => exact (unfailed trivial).elim
  | timedOut => exact (timely trivial).elim
  | _ => rfl

/-- If further attempts end an execution by a fault, it is that of their step, which
has failed. -/
theorem Repeated.fault
    {first : Outcome}
    (repeated : Repeated step input first before history (after, .finish ending))
    (fault : ending.step? = some id) :
    id = step.id ∧ after.schedule.outcome? step.id = some .failed := by
  generalize reached : (after, Flow.finish ending) = result at repeated
  cases repeated with
  | late | cut | failed =>
    cases reached
    exact ⟨(Option.some.inj fault).symm, outcome?_note _ _ _⟩
  | succeeded =>
    rw [step?_of_succeed reached.symm] at fault
    cases fault

/-- If a failure ends an execution by a fault, it is that of its step, which has failed. -/
theorem Rejected.fault
    {outcome : Outcome}
    {condition : Option ConditionError}
    (rejected : Rejected step input outcome condition before history (after, .finish ending))
    (fault : ending.step? = some id) :
    id = step.id ∧ after.schedule.outcome? step.id = some .failed := by
  cases rejected with
  | aborted | unevaluated => exact ⟨(Option.some.inj fault).symm, outcome?_note _ _ _⟩
  | repeated _ _ repeated => exact repeated.fault fault

/-- A step at fault that was performed has failed, unless nothing came behind the first look
at the clock. -/
theorem Performed.fault
    (performed : Performed step input before history (after, .finish ending))
    (fault : ending.step? = some id) :
    id = step.id ∧
      if history.length = 1 then after.schedule = before.schedule
      else after.schedule.outcome? step.id = some .failed := by
  generalize reached : (after, Flow.finish ending) = result at performed
  cases performed with
  | late =>
    cases reached
    exact ⟨(Option.some.inj fault).symm, rfl⟩
  | interrupted =>
    cases reached
    rw [if_neg (by simp)]
    exact ⟨(Option.some.inj fault).symm, outcome?_note _ _ _⟩
  | succeeded =>
    rw [step?_of_succeed reached.symm] at fault
    cases fault
  | failed _ _ _ rejected =>
    subst reached
    rw [if_neg (by simp)]
    exact rejected.fault fault

/-- If a visit ends an execution by a fault, it is that of its step, which has failed unless
the visit was late for it. -/
theorem fault_of_runStep
    (ends : (before.runStep step).Ends history (after, .finish ending))
    (fault : ending.step? = some id) :
    id = step.id ∧
      if before.isLateFor step history.clocks then after.schedule = before.schedule
      else after.schedule.outcome? step.id = some .failed := by
  unfold isLateFor
  cases visited_of_ends ends with
  | unevaluated broken _ rejected =>
    simp only [broken]
    exact rejected.fault fault
  | unresolved met unresolved _ rejected =>
    simp only [met, unresolved]
    exact rejected.fault fault
  | performed met resolved performed =>
    unfold runStep at ends
    simp only [met, resolved] at ends ⊢
    obtain ⟨clock, rest, rfl, cut⟩ := ends_perform ends
    have looked : History.clocks (⟨.clock, clock⟩ :: rest) = clock :: rest.clocks := rfl
    have lone : List.length (⟨.clock, clock⟩ :: rest) = 1 ↔
        (before.remaining? clock).isNone = true := by
      rw [List.length_cons, Nat.add_eq_right, List.length_eq_zero_iff, cut,
        Option.isNone_iff_eq_none]
    rw [looked, List.head?_cons, Option.any_some]
    simpa only [lone] using performed.fault fault

/-- An execution that ends in a turn with a step at fault has entered that step.  The step
has failed, unless the execution has come too late to dispatch it. -/
theorem Spent.fault
    (spent : Spent before history (after, .finish ending))
    (fault : ending.step? = some id) :
    ∃ step, before.schedule.current? = some step ∧ id = step.id ∧
      if before.entersLate history.clocks then after.schedule = before.schedule
      else after.schedule.outcome? step.id = some .failed := by
  generalize reached : (after, Flow.finish ending) = result at spent
  cases spent with
  | idle _ halts =>
    subst reached
    cases halts
    cases fault
  | exhausted | late =>
    cases reached
    cases fault
  | @visited step opening visit closing clock middle last result opened current timely ends
      synced =>
    obtain ⟨rfl, flow⟩ := Prod.mk.inj reached
    obtain ⟨moved, goesOn⟩ := result
    subst flow
    have entered : before.entersLate (clock :: visit.clocks) =
        middle.isLateFor step visit.clocks := by
      rw [opened.isLateFor_eq]
      simp [entersLate, entered?, timely, current]
    obtain ⟨named, noted⟩ := fault_of_runStep ends fault
    rw [opened.schedule, ← synced.schedule] at noted
    rw [opened.clocks_around synced, entered]
    exact ⟨step, current, named, noted⟩

end

/-! ## Last turns -/

/-- A run has come to its end: in its last turn, with some exchanges, one execution has
become another, of which the last record tells. -/
inductive Concluded
    (environment : Environment)
    (workflow : Workflow)
    (call : Call) :
    History → Execution → History → Execution → ExecutionRecord → Prop
  | intro
      {past acting closing : History}
      {before last : Execution}
      {ending : Ending}
      {record : ExecutionRecord}
      (run : Run environment workflow call past (.done (.turn before)))
      (acted : before.activity.Ends acting (last, .finish ending))
      (closed : (last.finalize ending).Ends closing record) :
      Concluded environment workflow call (past ++ acting ++ closing) before acting
        (last.settled ending) record

section

variable
  {environment : Environment}
  {workflow : Workflow}
  {call : Call}
  {history acting : History}
  {before final : Execution}
  {record : ExecutionRecord}

/-- Every run that has ended concluded in a last turn. -/
theorem Run.exists_concluded
    (run : Run environment workflow call history (.done (.ended record))) :
    ∃ before acting final,
      Concluded environment workflow call history before acting final record := by
  obtain ⟨past, before, acting, last, ending, closing, rfl, run, acted, closed⟩ := run.last_turn
  exact ⟨before, acting, _, .intro run acted closed⟩

namespace Concluded

/-- A last record is coherent, and no record that was stored before it is closed. -/
theorem isCoherent
    (concluded : Concluded environment workflow call history before acting final record)
    (valid : workflow.isValid = true) :
    record.IsCoherent workflow ∧
      ∃ earlier, history.records = earlier ++ [record] ∧ ∀ other ∈ earlier, other.IsOpen := by
  cases concluded with
  | @intro past acting closing before last ending record run acted closed =>
    have stays := run.staysOpen
    have acting := staysOpen_of_ends stays.isOpen acted
    obtain ⟨tells, -⟩ := tellsOf_of_ends acting.isOpen closed
    refine ⟨tells.isCoherent fun id cause failed => ?_, ?_⟩
    · have fault : ending.step? = some id := by
        rw [failed]
        rfl
      obtain ⟨step, current, named, -⟩ := (spent_of_ends acted).fault fault
      exact ⟨step, run.isOnMainLine_of_current? valid current, named.symm⟩
    · refine ⟨_, ?_, (StaysOpen.append stays.stored acting).stored⟩
      rw [History.records_append, (closed_of_ends closed).records]

/-- The steps of the last execution are those of the workflow in their order. -/
theorem steps_eq
    (concluded : Concluded environment workflow call history before acting final record) :
    final.schedule.steps = workflow.orderedSteps := by
  cases concluded with
  | @intro _ _ _ _ last ending _ run acted _ =>
    have continues :=
      (acted_of_ends acted).evolves.continues.trans (last.continues_settled ending)
    exact continues.schedule.steps.trans run.follows.steps

/-- The steps that have failed in the end are counted. -/
theorem failedSteps_eq
    (concluded : Concluded environment workflow call history before acting final record) :
    record.failedSteps = final.schedule.countOf .failed := by
  cases concluded with
  | intro run acted closed =>
    exact (tellsOf_of_ends (staysOpen_of_ends run.staysOpen.isOpen acted).isOpen closed).2

/-- A step at fault has failed in the end, unless the execution has come too late to dispatch
it.  Then it has its earlier outcome, and it was skipped if it had none. -/
theorem outcome?_of_fault
    {id : String}
    (concluded : Concluded environment workflow call history before acting final record)
    (fault : record.failedStep = some id) :
    final.schedule.outcome? id = some
      (if before.entersLate acting.clocks then (before.schedule.outcome? id).getD .skipped
      else .failed) := by
  cases concluded with
  | @intro past acting closing before last ending record run acted closed =>
    have isOpen := (staysOpen_of_ends run.staysOpen.isOpen acted).isOpen
    rw [(tellsOf_of_ends isOpen closed).1.failedStep] at fault
    obtain ⟨step, current, rfl, noted⟩ := (spent_of_ends acted).fault fault
    have uncancelled : ending.status ≠ .cancelled := by
      intro cancelled
      cases ending with
      | cancelled => cases fault
      | _ => cases cancelled
    have settled : (last.settled ending).schedule = last.schedule.finish := by
      unfold settled
      rw [if_neg uncancelled]
    have member : step ∈ last.schedule.steps := by
      rw [(acted_of_ends acted).evolves.continues.schedule.steps]
      exact Schedule.mem_steps_of_current? current
    rw [settled, Schedule.outcome?_finish member]
    split at noted
    next late => rw [noted, if_pos late]
    next timely =>
      rw [noted, if_neg timely]
      rfl

end Concluded

end

end Execution
end WorkflowEngine
