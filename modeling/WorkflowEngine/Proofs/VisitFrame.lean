import WorkflowEngine.Proofs.Counters

/-!
# What a visit leaves alone

A visit of a step moves an execution on in its schedule, adds to its data and counts
attempts.  The record of the execution, its listener and whether it is paused are no
business of a visit.
-/

namespace WorkflowEngine
namespace Execution

/-- One execution differs from another at most in what a visit may change. -/
def Revised (before after : Execution) : Prop :=
  ∃ schedule context monitor attempts retries,
    after = { before with schedule, context, monitor, attempts, retries }

namespace Revised

variable {before middle after : Execution}

theorem refl (execution : Execution) : Revised execution execution :=
  ⟨_, _, _, _, _, rfl⟩

theorem trans
    (first : Revised before middle)
    (second : Revised middle after) :
    Revised before after := by
  obtain ⟨_, _, _, _, _, rfl⟩ := first
  obtain ⟨_, _, _, _, _, rfl⟩ := second
  exact ⟨_, _, _, _, _, rfl⟩

/-- A visit neither pauses nor resumes an execution. -/
theorem isPaused_eq (revised : Revised before after) : after.isPaused = before.isPaused := by
  obtain ⟨_, _, _, _, _, rfl⟩ := revised
  rfl

/-- A visit leaves the record of an execution as it was; it is brought up to date behind the
visit. -/
theorem record_eq (revised : Revised before after) : after.record = before.record := by
  obtain ⟨_, _, _, _, _, rfl⟩ := revised
  rfl

theorem note
    (revised : Revised before after)
    (id : String)
    (outcome : StepOutcome) :
    Revised before (after.note id outcome) :=
  revised.trans ⟨_, _, _, _, _, rfl⟩

theorem advance (revised : Revised before after) : Revised before after.advance :=
  revised.trans ⟨_, _, _, _, _, rfl⟩

theorem jumpTo
    (revised : Revised before after)
    (position : Nat) :
    Revised before (after.jumpTo position) :=
  revised.trans ⟨_, _, _, _, _, rfl⟩

/-- A successful step stores its result and goes on, and the record does not follow yet. -/
theorem succeed
    (revised : Revised before after)
    (step : Step)
    (outcome : Outcome) :
    Revised before (after.succeed step outcome).1 := by
  obtain ⟨_, _, moved⟩ := exists_succeed_eq after step outcome
  rw [moved]
  exact revised.trans ⟨_, _, _, _, _, rfl⟩

/-- The outcome of a branch goes to the schedule and to the data alone. -/
theorem settleBranch
    (revised : Revised before after)
    (step : Step)
    (outcome : Outcome) :
    Revised before (after.settleBranch step outcome) := by
  obtain ⟨_, _, moved⟩ := exists_settleBranch_eq after step outcome
  rw [moved]
  exact revised.trans ⟨_, _, _, _, _, rfl⟩

end Revised

section

variable
  {step : Step}
  {input : Object}
  {before after : Execution}
  {history : History}
  {result : Execution × Flow}

/-- Writing down an attempt changes the counts and the measurements alone. -/
theorem Written.revised
    {startedAt : Timestamp}
    {number : Nat}
    {outcome : Outcome}
    (written : Written step input startedAt number outcome before history after) :
    Revised before after := by
  obtain ⟨monitor, rfl⟩ := written.after_eq
  exact ⟨_, _, _, _, _, rfl⟩

/-- The retries of a series change the counts and the measurements alone. -/
theorem WrittenAll.revised
    {attempts : List Attempt}
    (written : WrittenAll step input attempts before history after) :
    Revised before after := by
  induction written with
  | nil => exact .refl _
  | @cons attempt rest before middle after first last written _ inductionHypothesis =>
    have counted : Revised before { before with retries := before.retries + 1 } :=
      ⟨_, _, _, _, _, rfl⟩
    exact (counted.trans written.revised).trans inductionHypothesis

/-- Branches leave their outcomes and results behind, and the record to others. -/
theorem Settled.revised
    {branches : List Branch}
    {settlement final : Settlement}
    (settled : Settled branches settlement before history after final) :
    Revised before after := by
  induction settled with
  | nil => exact .refl _
  | skipped _ inductionHypothesis => exact ((Revised.refl _).note _ _).trans inductionHypothesis
  | ran written _ inductionHypothesis =>
    exact (written.revised.settleBranch _ _).trans inductionHypothesis

/-- A first attempt is no business of the record, whether it fans out or not. -/
theorem Tried.revised
    {outcome : Option Outcome}
    (tried : Tried step input before history after outcome) :
    Revised before after := by
  cases tried with
  | attempted => exact .refl _
  | overrun => exact .refl _
  | fanned _ _ settled => exact settled.revised

/-- However a series of retries comes out, it only revises the execution. -/
theorem Repeated.revised
    {first : Outcome}
    (repeated : Repeated step input first before history result) :
    Revised before result.1 := by
  cases repeated with
  | late => exact (Revised.refl _).note _ _
  | cut again => exact again.written.revised.note _ _
  | succeeded again => exact again.written.revised.succeed _ _
  | failed again => exact again.written.revised.note _ _

/-- No reaction to a failure touches the record. -/
theorem Rejected.revised
    {outcome : Outcome}
    {condition : Option ConditionError}
    (rejected : Rejected step input outcome condition before history result) :
    Revised before result.1 := by
  have noted (outcome : StepOutcome) : Revised before (before.note step.id outcome) :=
    (Revised.refl before).note _ _
  cases rejected with
  | aborted => exact noted .failed
  | unevaluated => exact noted .failed
  | repeated _ _ repeated => exact repeated.revised
  | advanced => exact (noted .failed).advance
  | skipped => exact (noted .skipped).advance
  | jumped => exact (noted .failed).jumpTo _

/-- However a step is performed, it only revises the execution. -/
theorem Performed.revised
    (performed : Performed step input before history result) :
    Revised before result.1 := by
  cases performed with
  | late => exact .refl _
  | interrupted tried written => exact (tried.revised.trans written.revised).note _ _
  | succeeded tried written => exact (tried.revised.trans written.revised).succeed _ _
  | failed tried written _ rejected =>
    exact (tried.revised.trans written.revised).trans rejected.revised

/-- A visit revises an execution and leaves the rest of it alone. -/
theorem Visited.revised
    (visited : Visited step before history result) :
    Revised before result.1 := by
  cases visited with
  | skipped => exact ((Revised.refl _).note _ _).advance
  | unevaluated _ written rejected => exact written.revised.trans rejected.revised
  | unresolved _ _ written rejected => exact written.revised.trans rejected.revised
  | performed _ _ performed => exact performed.revised

end

end Execution
end WorkflowEngine
