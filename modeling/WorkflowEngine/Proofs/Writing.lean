import WorkflowEngine.Proofs.Continues
import WorkflowEngine.Proofs.History

/-!
# Histories of writing

How attempts are added to the trail.  That touches neither the context nor the
schedule of an execution, so a failed write leaves no trace in the data.
-/

namespace WorkflowEngine
namespace Execution

section

variable (step : Step) (input : Object)

/-- An attempt was added to the trail. -/
structure Written
    (startedAt : Timestamp)
    (number : Nat)
    (outcome : Outcome)
    (before : Execution)
    (history : History)
    (after : Execution) : Prop where
  writing : ∀ exchange ∈ history, exchange.request.isWriting = true
  attempts : ∃ completedAt usage,
    history.attempts =
      [before.attemptRecord step input startedAt completedAt number outcome usage]
  after_eq : ∃ monitor, after = { before with monitor, attempts := before.attempts + 1 }

/-- Further attempts were added to the trail. -/
inductive WrittenAll : List Attempt → Execution → History → Execution → Prop
  | nil {execution : Execution} : WrittenAll [] execution [] execution
  | cons
      {attempt : Attempt}
      {rest : List Attempt}
      {before middle after : Execution}
      {first last : History}
      (written : Written step input attempt.startedAt attempt.number attempt.outcome
        { before with retries := before.retries + 1 } first middle)
      (others : WrittenAll rest middle last after) :
      WrittenAll (attempt :: rest) before (first ++ last) after

end

/-- The branches of a parallel step were taken into account. -/
inductive Settled :
    List Branch → Settlement → Execution → History → Execution → Settlement → Prop
  | nil
      {settlement : Settlement}
      {execution : Execution} :
      Settled [] settlement execution [] execution settlement
  | skipped
      {step : Step}
      {rest : List Branch}
      {settlement final : Settlement}
      {before after : Execution}
      {history : History}
      (others : Settled rest settlement (before.note step.id .skipped) history after final) :
      Settled (.skipped step :: rest) settlement before history after final
  | ran
      {step : Step}
      {input : Object}
      {startedAt : Timestamp}
      {outcome : Outcome}
      {rest : List Branch}
      {settlement final : Settlement}
      {before middle after : Execution}
      {first last : History}
      (written : Written step input startedAt 0 outcome before first middle)
      (others : Settled rest (settlement.add step outcome) (middle.settleBranch step outcome)
        last after final) :
      Settled (.ran step input startedAt outcome :: rest) settlement before
        (first ++ last) after final

/-! ## What the programs do -/

section

variable {execution : Execution} {step : Step} {input : Object}

/-- What a handler has used is measured without a call. -/
theorem usageOf_uses (result : StepResult) :
    (execution.usageOf result).Uses Request.isWriting := by
  unfold usageOf
  split
  · trivial
  · exact ⟨rfl, fun reading => trivial⟩

/-- To write down an attempt takes no handler. -/
theorem write_uses (startedAt : Timestamp) (number : Nat) (outcome : Outcome) :
    (execution.write step input startedAt number outcome).Uses Request.isWriting :=
  (usageOf_uses outcome.result).bind fun _ =>
    ⟨rfl, fun _ => ⟨rfl, fun _ => trivial⟩⟩

/-- Whoever writes down an attempt to the end leaves the history of a written one. -/
theorem written_of_ends
    {startedAt : Timestamp}
    {number : Nat}
    {outcome : Outcome}
    {history : History}
    {after : Execution}
    (ends : (execution.write step input startedAt number outcome).Ends history after) :
    Written step input startedAt number outcome execution history after := by
  have writing := (write_uses startedAt number outcome).of_mem ends
  obtain ⟨⟨usage, monitor⟩, sampling, _, rfl, sampled, written⟩ := Program.Ends.of_bind ends
  have unwritten : sampling.attempts = [] := by
    unfold usageOf at sampled
    split at sampled
    · obtain ⟨rfl, -⟩ := sampled.of_done
      rfl
    · obtain ⟨reading, _, rfl, read⟩ := sampled.of_request
      obtain ⟨rfl, -⟩ := read.of_done
      rfl
  obtain ⟨now, _, rfl, timed⟩ := written.of_request
  obtain ⟨stored, _, rfl, appended⟩ := timed.of_request
  obtain ⟨rfl, rfl⟩ := appended.of_done
  refine ⟨writing, ⟨now, usage, ?_⟩, ⟨monitor, rfl⟩⟩
  rw [History.attempts_append, unwritten]
  rfl

/-- The same for the attempts of a series of retries. -/
theorem writtenAll_of_ends
    {attempts : List Attempt}
    {execution after : Execution}
    {history : History}
    (ends : (writeRetries step input attempts execution).Ends history after) :
    WrittenAll step input attempts execution history after := by
  induction attempts generalizing execution history with
  | nil =>
    obtain ⟨rfl, rfl⟩ := ends.of_done
    exact .nil
  | cons attempt rest inductionHypothesis =>
    obtain ⟨middle, _, _, rfl, written, others⟩ := Program.Ends.of_bind ends
    exact .cons (written_of_ends written) (inductionHypothesis others)

/-- The branches of a fan-out are written down in their order, and what comes of all of them
is told at the end. -/
theorem settled_of_ends
    {branches : List Branch}
    {settlement final : Settlement}
    {execution after : Execution}
    {history : History}
    (ends : (settleBranches branches settlement execution).Ends history (after, final)) :
    Settled branches settlement execution history after final := by
  induction branches generalizing settlement execution history with
  | nil =>
    obtain ⟨rfl, settled⟩ := ends.of_done
    cases settled
    exact .nil
  | cons branch rest inductionHypothesis =>
    cases branch with
    | skipped step => exact .skipped (inductionHypothesis ends)
    | ran step input startedAt outcome =>
      obtain ⟨middle, _, _, rfl, written, others⟩ := Program.Ends.of_bind ends
      exact .ran (written_of_ends written) (inductionHypothesis others)

theorem writeNow_uses (outcome : Outcome) :
    (execution.writeNow step outcome).Uses Request.isWriting :=
  ⟨rfl, fun _ => write_uses _ _ _⟩

theorem writeRetries_uses (attempts : List Attempt) (execution : Execution) :
    (writeRetries step input attempts execution).Uses Request.isWriting := by
  induction attempts generalizing execution with
  | nil => trivial
  | cons attempt rest inductionHypothesis =>
    exact (write_uses _ _ _).bind fun middle => inductionHypothesis middle

/-- To settle branches takes no handler: all of them have been called before. -/
theorem settleBranches_uses
    (branches : List Branch)
    (settlement : Settlement)
    (execution : Execution) :
    (settleBranches branches settlement execution).Uses Request.isWriting := by
  induction branches generalizing settlement execution with
  | nil => trivial
  | cons branch rest inductionHypothesis =>
    cases branch with
    | skipped step => exact inductionHypothesis _ _
    | ran step input startedAt outcome =>
      exact (write_uses _ _ _).bind fun middle => inductionHypothesis _ _

end

/-! ## What writing leaves alone -/

section

variable {step : Step} {input : Object} {before after : Execution} {history : History}

/-- An execution evolves as an attempt is written down. -/
theorem Written.evolves
    {startedAt : Timestamp}
    {number : Nat}
    {outcome : Outcome}
    (written : Written step input startedAt number outcome before history after) :
    before.Evolves after := by
  obtain ⟨monitor, rfl⟩ := written.after_eq
  exact .single (.kept rfl rfl rfl rfl rfl)

theorem Written.continues
    {startedAt : Timestamp}
    {number : Nat}
    {outcome : Outcome}
    (written : Written step input startedAt number outcome before history after) :
    before.Continues after :=
  written.evolves.continues

/-- What is written down is not yet stored: the data stay as they are. -/
theorem Written.context_eq
    {startedAt : Timestamp}
    {number : Nat}
    {outcome : Outcome}
    (written : Written step input startedAt number outcome before history after) :
    after.context = before.context := by
  obtain ⟨monitor, rfl⟩ := written.after_eq
  rfl

/-- An attempt is written down before its outcome is noted. -/
theorem Written.schedule_eq
    {startedAt : Timestamp}
    {number : Nat}
    {outcome : Outcome}
    (written : Written step input startedAt number outcome before history after) :
    after.schedule = before.schedule := by
  obtain ⟨monitor, rfl⟩ := written.after_eq
  rfl

/-- No handler is called while an attempt is written down. -/
theorem Written.invocations_eq_nil
    {startedAt : Timestamp}
    {number : Nat}
    {outcome : Outcome}
    (written : Written step input startedAt number outcome before history after) :
    history.invocations = [] :=
  History.invocations_eq_nil written.writing fun _ => rfl

/-- An execution evolves as the retries of a series are written down. -/
theorem WrittenAll.evolves
    {attempts : List Attempt}
    (written : WrittenAll step input attempts before history after) :
    before.Evolves after := by
  induction written with
  | nil => exact .refl
  | @cons attempt rest before middle after first last written _ inductionHypothesis =>
    have counted : before.Evolves { before with retries := before.retries + 1 } :=
      .single (.kept rfl rfl rfl rfl rfl)
    exact (counted.trans written.evolves).trans inductionHypothesis

theorem WrittenAll.schedule_eq
    {attempts : List Attempt}
    (written : WrittenAll step input attempts before history after) :
    after.schedule = before.schedule := by
  induction written with
  | nil => rfl
  | cons written _ inductionHypothesis => exact inductionHypothesis.trans written.schedule_eq

/-- The handlers have been called before any retry is written down. -/
theorem WrittenAll.invocations_eq_nil
    {attempts : List Attempt}
    (written : WrittenAll step input attempts before history after) :
    history.invocations = [] := by
  induction written with
  | nil => rfl
  | cons written _ inductionHypothesis =>
    rw [History.invocations_append, written.invocations_eq_nil, inductionHypothesis]
    rfl

/-- What was written in one go was written in two. -/
theorem WrittenAll.of_append
    {first rest : List Attempt}
    (written : WrittenAll step input (first ++ rest) before history after) :
    ∃ middle opening closing, history = opening ++ closing ∧
      WrittenAll step input first before opening middle ∧
      WrittenAll step input rest middle closing after := by
  induction first generalizing before history with
  | nil => exact ⟨before, [], history, rfl, .nil, written⟩
  | cons attempt others inductionHypothesis =>
    cases written with
    | cons one more =>
      obtain ⟨middle, opening, closing, rfl, begun, continued⟩ := inductionHypothesis more
      exact ⟨middle, _, closing, (List.append_assoc _ _ _).symm, .cons one begun, continued⟩

/-- Branches that are settled have their outcomes noted and their results stored. -/
theorem Settled.evolves
    {branches : List Branch}
    {settlement final : Settlement}
    (settled : Settled branches settlement before history after final) :
    before.Evolves after := by
  induction settled with
  | nil => exact .refl
  | skipped _ inductionHypothesis => exact (evolves_note _ _ _).trans inductionHypothesis
  | ran written _ inductionHypothesis =>
    exact (written.evolves.trans (evolves_settleBranch _ _ _)).trans inductionHypothesis

theorem Settled.invocations_eq_nil
    {branches : List Branch}
    {settlement final : Settlement}
    (settled : Settled branches settlement before history after final) :
    history.invocations = [] := by
  induction settled with
  | nil => rfl
  | skipped _ inductionHypothesis => exact inductionHypothesis
  | ran written _ inductionHypothesis =>
    rw [History.invocations_append, written.invocations_eq_nil, inductionHypothesis]
    rfl

end

end Execution
end WorkflowEngine
