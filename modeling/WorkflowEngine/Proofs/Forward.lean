import WorkflowEngine.Proofs.Itinerary
import WorkflowEngine.Proofs.Routing

/-!
# Workflows that lead forward

The cursor moves in either direction, and a workflow may well loop.  If nothing that a
step refers to and no reply of its handler leads back, then every visit that does not end
the execution takes the cursor further.
-/

namespace WorkflowEngine

namespace Workflow

/-- A step comes before another one in the order of execution. -/
def ComesBefore (workflow : Workflow) (step target : Step) : Prop :=
  ∃ here there : Nat, here < there ∧
    workflow.orderedSteps[here]? = some step ∧ workflow.orderedSteps[there]? = some target

/-- Whatever a step refers to comes later in the order of execution, unless it is a
sub-step. -/
def IsForward (workflow : Workflow) : Prop :=
  ∀ step ∈ workflow.steps, ∀ {field id}, step.RefersTo field id → field ≠ .subStep →
    ∃ target, target.id = id ∧ workflow.ComesBefore step target

/-- Where a handler sends the execution after a step, there is a later step, or one that
some step lists, or none at all. -/
def LeadsForward (workflow : Workflow) (step : Step) (reply : Reply) : Prop :=
  ∀ id, reply.outcome.result.nextStep = some id →
    ∀ target ∈ workflow.steps, target.id = id →
      (∃ lister ∈ workflow.steps, lister.RefersTo .subStep id) ∨ workflow.ComesBefore step target

end Workflow

/-! ## Cursors -/

namespace Schedule

/-- A step that may be reached by its identifier is ahead of the cursor. -/
def LeadsOn (schedule : Schedule) (id : String) : Prop :=
  ∀ position, schedule.position? id = some position → schedule.isOwned id = false →
    schedule.cursor < position

/-- To advance takes the cursor further. -/
theorem cursor_lt_advance (schedule : Schedule) : schedule.cursor < schedule.advance.cursor :=
  (schedule.landsAt_settleAt _).notBefore

/-- A jump to a step ahead takes the cursor further. -/
theorem cursor_lt_jumpTo
    {schedule : Schedule}
    {id : String}
    {position : Nat}
    (found : schedule.position? id = some position)
    (ahead : schedule.cursor < position) :
    schedule.cursor < (schedule.jumpTo position).cursor := by
  obtain ⟨inside, -⟩ := List.findIdx?_eq_some_iff_getElem.mp found
  unfold jumpTo
  rw [Nat.min_eq_left inside.le]
  exact ahead.trans_le (schedule.landsAt_settleAt position).notBefore

/-- What comes after the step under the cursor is ahead of the cursor. -/
theorem cursor_lt_of_comesBefore
    {schedule : Schedule}
    {workflow : Workflow}
    {step target : Step}
    {position : Nat}
    (follows : schedule.steps = workflow.orderedSteps)
    (valid : workflow.isValid = true)
    (current : schedule.current? = some step)
    (before : workflow.ComesBefore step target)
    (found : schedule.position? target.id = some position) :
    schedule.cursor < position := by
  obtain ⟨here, there, earlier, first, last⟩ := before
  rw [← follows] at first last
  have place : schedule.position? step.id = some schedule.cursor :=
    (position?_eq_some_iff follows valid).mpr ⟨step, current, rfl⟩
  have same : schedule.position? step.id = some here :=
    (position?_eq_some_iff follows valid).mpr ⟨step, first, rfl⟩
  have aim : schedule.position? target.id = some there :=
    (position?_eq_some_iff follows valid).mpr ⟨target, last, rfl⟩
  obtain rfl := Option.some.inj (place.symm.trans same)
  obtain rfl := Option.some.inj (found.symm.trans aim)
  exact earlier

end Schedule

/-- Nothing sends an execution from a step back to the cursor or before it: neither a
reference of the step nor a reply to a call for it. -/
structure Step.LeadsAhead (step : Step) (schedule : Schedule) (history : History) : Prop where
  references : ∀ {field id position}, step.RefersTo field id → field ≠ .subStep →
    schedule.position? id = some position → schedule.cursor < position
  replies : ∀ called ∈ history.invocations, called.1.step = step →
    ∀ id, called.2.outcome.result.nextStep = some id → schedule.LeadsOn id

/-- A failed step sends its execution only to a step to which it refers. -/
theorem Step.exists_refersTo_of_jump
    {step : Step}
    {outcome : Outcome}
    {default : FailureAction}
    {schedule : Schedule}
    {position : Nat}
    (jumps : step.reaction outcome default schedule = .jump position) :
    ∃ field id, step.RefersTo field id ∧ field ≠ .subStep ∧
      schedule.position? id = some position := by
  unfold reaction at jumps
  dsimp only at jumps
  split at jumps
  next => cases jumps
  next =>
    split at jumps
    next => cases jumps
    next =>
      split at jumps
      next found =>
        cases jumps
        obtain ⟨id, named, found⟩ := Option.bind_eq_some_iff.mp found
        exact ⟨_, id, .continueWith named, nofun, found⟩
      next => cases jumps
    next => cases jumps
    next => cases jumps
    next =>
      split at jumps
      next found =>
        cases jumps
        obtain ⟨id, named, found⟩ := Option.bind_eq_some_iff.mp found
        exact ⟨_, id, .fallback named, nofun, found⟩
      next => cases jumps

namespace Step.LeadsAhead

variable
  {step : Step}
  {schedule : Schedule}
  {history part : History}
  {id : String}

/-- A part of a history leads nowhere that the whole does not lead. -/
theorem mono
    (ahead : step.LeadsAhead schedule history)
    (included : part.invocations ⊆ history.invocations) :
    step.LeadsAhead schedule part where
  references := ahead.references
  replies called member := ahead.replies called (included member)

/-- Outcomes that are noted make no difference. -/
theorem noted
    (ahead : step.LeadsAhead schedule history)
    (outcomes : Dict StepOutcome) :
    step.LeadsAhead { schedule with outcomes } history where
  references := ahead.references
  replies := ahead.replies

/-- A step that leads ahead refers to nothing at the cursor or before it. -/
theorem leadsOn
    {field : ReferenceField}
    (ahead : step.LeadsAhead schedule history)
    (refers : step.RefersTo field id)
    (route : field ≠ .subStep) :
    schedule.LeadsOn id :=
  fun _ found _ => ahead.references refers route found

end Step.LeadsAhead

/-- A step of a workflow that leads forward leads ahead whenever it is under the cursor. -/
theorem Workflow.IsForward.leadsAhead
    {workflow : Workflow}
    {schedule : Schedule}
    {step : Step}
    {history : History}
    (forward : workflow.IsForward)
    (valid : workflow.isValid = true)
    (follows : schedule.steps = workflow.orderedSteps)
    (current : schedule.current? = some step)
    (replies : ∀ called ∈ history.invocations, workflow.LeadsForward called.1.step called.2) :
    step.LeadsAhead schedule history where
  references refers route found := by
    have member : step ∈ workflow.steps := by
      rw [← workflow.orderedSteps_perm.mem_iff, ← follows]
      exact Schedule.mem_steps_of_current? current
    obtain ⟨target, rfl, before⟩ := forward step member refers route
    exact Schedule.cursor_lt_of_comesBefore follows valid current before found
  replies := by
    rintro called member rfl id next position found unowned
    obtain ⟨target, there, rfl⟩ := (Schedule.position?_eq_some_iff follows valid).mp found
    have known : target ∈ workflow.steps := by
      rw [← workflow.orderedSteps_perm.mem_iff, ← follows]
      exact List.mem_of_getElem? there
    rcases replies called member target.id next target known rfl with
      ⟨lister, listing, lists⟩ | before
    · have owned := (Schedule.isOwned_iff_listed follows valid known).mpr
        ⟨lister, listing, Step.mem_subSteps_iff.mpr lists⟩
      cases unowned.symm.trans owned
    · exact Schedule.cursor_lt_of_comesBefore follows valid current before found

/-! ## Attempts -/

theorem History.subset_invocations_append (first rest : History) :
    rest.invocations ⊆ History.invocations (first ++ rest) := by
  rw [History.invocations_append]
  exact List.subset_append_right _ _

/-- An outcome sends the execution on only where a reply to a call for its step does. -/
def Outcome.IsRoutedBy (outcome : Outcome) (step : Step) (history : History) : Prop :=
  ∀ id, outcome.result.nextStep = some id →
    ∃ called ∈ history.invocations, called.1.step = step ∧
      called.2.outcome.result.nextStep = some id

/-- A reply in a part of a history is one in the whole. -/
theorem Outcome.IsRoutedBy.mono
    {outcome : Outcome}
    {step : Step}
    {history part : History}
    (routed : outcome.IsRoutedBy step part)
    (included : part.invocations ⊆ history.invocations) :
    outcome.IsRoutedBy step history := by
  intro id next
  obtain ⟨called, member, same, sent⟩ := routed id next
  exact ⟨called, included member, same, sent⟩

/-- An outcome that sends the execution nowhere needs no reply. -/
theorem Outcome.isRoutedBy_of_none
    {outcome : Outcome}
    (silent : outcome.result.nextStep = none)
    (step : Step)
    (history : History) :
    outcome.IsRoutedBy step history := by
  intro id next
  rw [silent] at next
  cases next

section

variable
  {environment : Environment}
  {context : Context}
  {step : Step}
  {input : Object}
  {history : History}

/-- An attempt sends the execution where the reply of its handler does. -/
theorem Attempted.isRoutedBy
    {outcome : Outcome}
    (attempted : Attempted environment context step input history (some outcome)) :
    outcome.IsRoutedBy step history := by
  cases attempted with
  | settled dispatched =>
    apply Outcome.isRoutedBy_of_none
    unfold Dispatch.ofStep at dispatched
    split at dispatched
    next =>
      cases dispatched
      rfl
    next =>
      split at dispatched <;> cases dispatched
      rfl
  | answered => exact fun id next => ⟨_, List.mem_singleton_self _, rfl, next⟩

/-- So do retries, of which the last one counts. -/
theorem Retries.isRoutedBy
    {policy : RetryPolicy}
    {remaining number : Nat}
    {previous : Outcome}
    {retried : Retried}
    (retries : Retries environment context step input policy remaining number previous
      history retried) :
    ∀ outcome ∈ retried.outcome, outcome.IsRoutedBy step history := by
  induction retries with
  | exhausted =>
    rintro _ ⟨rfl⟩
    exact Outcome.isRoutedBy_of_none rfl _ _
  | late | cut => exact nofun
  | succeeded attempted =>
    rintro _ ⟨rfl⟩
    exact attempted.isRoutedBy
  | failed _ _ _ inductionHypothesis =>
    intro outcome closed
    exact (inductionHypothesis outcome closed).mono (History.subset_invocations_append _ _)

end

namespace Execution

/-! ## Successes -/

section

variable
  {execution : Execution}
  {step : Step}
  {outcome : Outcome}
  {history : History}

/-- A jump takes the cursor further unless its target is at the cursor or before it. -/
theorem cursor_lt_route
    {id : String}
    (leadsOn : execution.schedule.LeadsOn id) :
    execution.schedule.cursor < (execution.route id).schedule.cursor := by
  unfold route
  split
  next position found =>
    split
    next => exact execution.schedule.cursor_lt_advance
    next unowned =>
      exact Schedule.cursor_lt_jumpTo found (leadsOn position found (by simpa using unowned))
  next => exact execution.schedule.cursor_lt_advance

/-- An execution that goes on after a success goes on ahead. -/
theorem cursor_lt_succeed
    (ahead : step.LeadsAhead execution.schedule history)
    (chosen : ∀ id, outcome.result.nextStep = some id → execution.schedule.LeadsOn id)
    (goesOn : (execution.succeed step outcome).2 = .goOn) :
    execution.schedule.cursor < (execution.succeed step outcome).1.schedule.cursor := by
  unfold succeed at goesOn ⊢
  dsimp only at goesOn ⊢
  split at goesOn
  next => cases goesOn
  next stays =>
    rw [if_neg stays]
    split
    next target named =>
      refine lt_of_eq_of_lt ?_ (cursor_lt_route ?_)
      · rfl
      -- A step that branches goes by its configuration, every other one by its handler.
      split at named
      next =>
        split at named
        next => exact ahead.leadsOn (.onTrue (Step.configText?_eq_some_iff.mp named)) nofun
        next => exact ahead.leadsOn (.onFalse (Step.configText?_eq_some_iff.mp named)) nofun
      next => exact chosen target named
    next => exact Schedule.cursor_lt_advance (execution.schedule.record step.id .completed)

end

/-! ## Visits -/

section

variable
  {step : Step}
  {input : Object}
  {before after : Execution}
  {history : History}
  {result : Execution × Flow}

/-- To settle branches moves no cursor. -/
theorem Settled.schedule_eq
    {branches : List Branch}
    {settlement final : Settlement}
    (settled : Settled branches settlement before history after final) :
    ∃ outcomes, after.schedule = { before.schedule with outcomes } := by
  induction settled with
  | nil => exact ⟨_, rfl⟩
  | skipped _ inductionHypothesis => exact inductionHypothesis
  | @ran step _ _ outcome _ _ _ _ middle _ _ _ written _ inductionHypothesis =>
    obtain ⟨outcomes, same⟩ := inductionHypothesis
    refine ⟨outcomes, ?_⟩
    rw [same, ← written.schedule_eq]
    unfold settleBranch
    split <;> rfl

/-- A first attempt leaves the cursor where it is. -/
theorem Tried.schedule_eq
    {outcome : Option Outcome}
    (tried : Tried step input before history after outcome) :
    ∃ outcomes, after.schedule = { before.schedule with outcomes } := by
  cases tried with
  | attempted | overrun => exact ⟨_, rfl⟩
  | fanned _ _ settled => exact settled.schedule_eq

/-- A first attempt sends the execution where a reply does, and a fan-out sends
it nowhere. -/
theorem Tried.isRoutedBy
    {outcome : Outcome}
    (tried : Tried step input before history after (some outcome)) :
    outcome.IsRoutedBy step history := by
  cases tried with
  | attempted _ attempted => exact attempted.isRoutedBy
  | fanned =>
    apply Outcome.isRoutedBy_of_none
    unfold Settlement.outcome
    dsimp only
    split <;> rfl

/-- An outcome that comes of calls leads on if replies to them do. -/
theorem leadsOn_of_isRoutedBy
    {outcome : Outcome}
    {schedule : Schedule}
    (ahead : step.LeadsAhead schedule history)
    (routed : outcome.IsRoutedBy step history) :
    ∀ id, outcome.result.nextStep = some id → schedule.LeadsOn id := by
  intro id next
  obtain ⟨called, member, same, sent⟩ := routed id next
  exact ahead.replies called member same id sent

/-- If an execution goes on after retries, its cursor has moved further. -/
theorem Repeated.cursor_lt
    {first : Outcome}
    (repeated : Repeated step input first before history result)
    (ahead : step.LeadsAhead before.schedule history)
    (goesOn : result.2 = .goOn) :
    before.schedule.cursor < result.1.schedule.cursor := by
  cases repeated with
  | late | cut | failed => cases goesOn
  | @succeeded clock calls writes _ after outcome again closed =>
    have kept := again.written.schedule_eq
    rw [← kept] at ahead ⊢
    refine cursor_lt_succeed ahead (leadsOn_of_isRoutedBy ahead ?_) goesOn
    refine (again.retries.isRoutedBy outcome closed).mono ?_
    rw [again.invocations_eq]
    exact List.Subset.refl _

/-- A failed step takes the cursor ahead too, unless it ends the execution. -/
theorem Rejected.cursor_lt
    {outcome : Outcome}
    {condition : Option ConditionError}
    (rejected : Rejected step input outcome condition before history result)
    (ahead : step.LeadsAhead before.schedule history)
    (goesOn : result.2 = .goOn) :
    before.schedule.cursor < result.1.schedule.cursor := by
  cases rejected with
  | aborted | unevaluated => cases goesOn
  | repeated _ _ repeated => exact repeated.cursor_lt ahead goesOn
  | advanced => exact Schedule.cursor_lt_advance (before.schedule.record step.id .failed)
  | skipped => exact Schedule.cursor_lt_advance (before.schedule.record step.id .skipped)
  | jumped reaction =>
    obtain ⟨field, id, refers, route, found⟩ := Step.exists_refersTo_of_jump reaction
    exact @Schedule.cursor_lt_jumpTo (before.schedule.record step.id .failed) id _ found
      (ahead.references refers route found)

/-- If an execution goes on after a step, its cursor has moved further. -/
theorem Performed.cursor_lt
    (performed : Performed step input before history result)
    (ahead : step.LeadsAhead before.schedule history)
    (goesOn : result.2 = .goOn) :
    before.schedule.cursor < result.1.schedule.cursor := by
  cases performed with
  | late | interrupted => cases goesOn
  | @succeeded clock startedAt trying writing middle last outcome tried written =>
    obtain ⟨outcomes, same⟩ := tried.schedule_eq
    have ahead : step.LeadsAhead last.schedule trying := by
      rw [written.schedule_eq, same]
      refine (ahead.mono ?_).noted outcomes
      rw [written.invocations_tried]
      exact List.Subset.refl _
    have further := cursor_lt_succeed ahead (leadsOn_of_isRoutedBy ahead tried.isRoutedBy) goesOn
    rwa [written.schedule_eq, same] at further
  | @failed clock startedAt trying writing rest middle last outcome _ tried written _ rejected =>
    obtain ⟨outcomes, same⟩ := tried.schedule_eq
    have ahead : step.LeadsAhead last.schedule rest := by
      rw [written.schedule_eq, same]
      exact (ahead.mono (History.subset_invocations_append _ _)).noted outcomes
    have further := rejected.cursor_lt ahead goesOn
    rwa [written.schedule_eq, same] at further

/-- A visit that does not end the execution takes the cursor ahead. -/
theorem Visited.cursor_lt
    (visited : Visited step before history result)
    (ahead : step.LeadsAhead before.schedule history)
    (goesOn : result.2 = .goOn) :
    before.schedule.cursor < result.1.schedule.cursor := by
  cases visited with
  | skipped => exact Schedule.cursor_lt_advance (before.schedule.record step.id .skipped)
  | unevaluated _ written rejected =>
    have kept := written.schedule_eq
    rw [← kept] at ahead ⊢
    exact rejected.cursor_lt (ahead.mono (History.subset_invocations_append _ _)) goesOn
  | unresolved _ _ written rejected =>
    have kept := written.schedule_eq
    rw [← kept] at ahead ⊢
    exact rejected.cursor_lt (ahead.mono (History.subset_invocations_append _ _)) goesOn
  | performed _ _ performed => exact performed.cursor_lt ahead goesOn

end

end Execution
end WorkflowEngine
