import WorkflowEngine.Proofs.Keeping
import WorkflowEngine.Proofs.Visit

/-!
# Histories of turns

How a turn of an execution goes: it listens for a signal, and then either there
is nothing to do, or it ends for want of steps or time, or it visits the step
under the cursor and brings the record up to date.
-/

namespace WorkflowEngine
namespace Execution

/-- An execution is paused, or it was cancelled. -/
inductive Halts : Execution × Flow → Prop
  | paused {execution : Execution} (paused : execution.isPaused = true) :
      Halts (execution, .goOn)
  | cancelled (execution : Execution) (reason : Option String) :
      Halts (execution, .finish (.cancelled reason))

/-- What an execution does in a turn, up to its end if it comes to one. -/
inductive Acted (before : Execution) : History → Execution × Flow → Prop
  /-- No step is looked at. -/
  | idle
      {history : History}
      {result : Execution × Flow}
      (kept : Kept before history result.1)
      (halts : Halts result) :
      Acted before history result
  /-- No step is left. -/
  | exhausted
      {history : History}
      {after : Execution}
      (kept : Kept before history after)
      (behind : before.schedule.current? = none) :
      Acted before history (after, .finish .completed)
  /-- No time is left for the step under the cursor. -/
  | late
      {history : History}
      {after : Execution}
      (kept : Kept before history after) :
      Acted before history (after, .finish (.timedOut none))
  | visited
      {step : Step}
      {opening visit closing : History}
      {middle last : Execution}
      {result : Execution × Flow}
      (opened : Kept before opening middle)
      (current : before.schedule.current? = some step)
      (visited : Visited step middle visit result)
      (uses : ∀ exchange ∈ visit, exchange.request.isVisit = true)
      (synced : Kept result.1 closing last) :
      Acted before (opening ++ visit ++ closing) (last, result.2)

namespace Acted

theorem evolves
    {before : Execution}
    {history : History}
    {result : Execution × Flow}
    (acted : Acted before history result) :
    before.Evolves result.1 := by
  cases acted with
  | idle kept => exact kept.evolves
  | exhausted kept => exact kept.evolves
  | late kept => exact kept.evolves
  | visited opened _ visited _ synced =>
    exact (opened.evolves.trans visited.evolves).trans synced.evolves

end Acted

/-- What an execution does in a turn, with the looks at the clock.  The first of them
comes before a step. -/
inductive Spent (before : Execution) : History → Execution × Flow → Prop
  /-- No step is looked at. -/
  | idle
      {history : History}
      {result : Execution × Flow}
      (steady : Steady before history result.1)
      (halts : Halts result) :
      Spent before history result
  /-- No step is left. -/
  | exhausted
      {history : History}
      {after : Execution}
      (steady : Steady before history after)
      (behind : before.schedule.current? = none) :
      Spent before history (after, .finish .completed)
  /-- No time is left for the step under the cursor. -/
  | late
      {opening : History}
      {clock : Span}
      {after : Execution}
      (steady : Steady before opening after)
      (expired : before.isTimedOut clock = true) :
      Spent before (opening ++ [⟨.clock, clock⟩]) (after, .finish (.timedOut none))
  | visited
      {step : Step}
      {opening visit closing : History}
      {clock : Span}
      {middle last : Execution}
      {result : Execution × Flow}
      (opened : Steady before opening middle)
      (current : before.schedule.current? = some step)
      (timely : before.isTimedOut clock = false)
      (ends : (middle.runStep step).Ends visit result)
      (synced : Steady result.1 closing last) :
      Spent before (opening ++ [⟨.clock, clock⟩] ++ visit ++ closing) (last, result.2)

/-- Around a visit there is one look at the clock, and it comes first. -/
theorem Steady.clocks_around
    {before middle moved last : Execution}
    {opening closing : History}
    (opened : Steady before opening middle)
    (synced : Steady moved closing last)
    (clock : Span)
    (visit : History) :
    History.clocks (opening ++ [⟨.clock, clock⟩] ++ visit ++ closing) = clock :: visit.clocks := by
  rw [History.clocks_append, History.clocks_append, History.clocks_append,
    opened.unclocked, synced.unclocked, List.append_nil]
  rfl

namespace Spent

variable
  {before middle : Execution}
  {history first rest : History}
  {result : Execution × Flow}

/-- What comes before the step of a turn may be left out of the account. -/
theorem after_steady
    (steady : Steady before first middle)
    (spent : Spent middle rest result) :
    Spent before (first ++ rest) result := by
  cases spent with
  | idle following halts => exact .idle (steady.trans following) halts
  | exhausted following behind =>
    rw [steady.schedule] at behind
    exact .exhausted (steady.trans following) behind
  | late following expired =>
    rw [steady.isTimedOut_eq] at expired
    rw [← List.append_assoc]
    exact .late (steady.trans following) expired
  | visited opened current timely ends synced =>
    rw [steady.schedule] at current
    rw [steady.isTimedOut_eq] at timely
    rw [← List.append_assoc, ← List.append_assoc, ← List.append_assoc]
    exact .visited (steady.trans opened) current timely ends synced

/-- The looks at the clock may be passed over. -/
theorem acted (spent : Spent before history result) : Acted before history result := by
  have looked (execution : Execution) (clock : Span) :
      Kept execution [⟨.clock, clock⟩] execution :=
    kept_exchange rfl rfl
  cases spent with
  | idle steady halts => exact .idle steady.toKept halts
  | exhausted steady behind => exact .exhausted steady.toKept behind
  | late steady => exact .late (steady.toKept.trans (looked _ _))
  | @visited _ opening visit _ clock middle _ _ opened current _ ends synced =>
    have begun := opened.toKept.trans (looked middle clock)
    exact .visited begun current (visited_of_ends ends) ((runStep_uses _ _).of_mem ends)
      synced.toKept

end Spent

/-! ## What the programs do -/

section

variable {execution : Execution} {history : History} {result : Execution × Flow}

theorem spent_of_ends_step
    (ends : execution.step.Ends history result) :
    Spent execution history result := by
  unfold step at ends
  split at ends
  next behind =>
    obtain ⟨rfl, rfl⟩ := ends.of_done
    exact .exhausted (.refl execution) behind
  next step current =>
    obtain ⟨clock, _, rfl, timed⟩ := Program.Ends.of_request ends
    split at timed
    next expired =>
      obtain ⟨rfl, rfl⟩ := timed.of_done
      exact .late (.refl execution) expired
    next timely =>
      obtain ⟨middle, visit, _, rfl, visited, syncing⟩ := timed.of_bind
      obtain ⟨last, closing, _, rfl, synced, finished⟩ := syncing.of_bind
      obtain ⟨rfl, rfl⟩ := finished.of_done
      have opened := (Steady.refl execution).set
        { execution.record with currentStep := some step.id } rfl execution.listener
        execution.isPaused
      rw [List.append_nil]
      exact @Spent.visited _ _ [] _ _ _ _ _ _ opened current (by simpa using timely) visited
        (steady_of_ends_sync synced)

theorem spent_of_ends_running
    (ends : execution.runningActivity.Ends history result) :
    Spent execution history result := by
  obtain ⟨⟨signal, listener⟩, rest, rfl, continued⟩ := Program.Ends.of_request ends
  have begun : Steady execution [⟨.signal execution.listener, (signal, listener)⟩] execution :=
    steady_exchange rfl rfl rfl
  refine .after_steady (begun.set _ rfl listener execution.isPaused) ?_
  cases signal with
  | run => exact spent_of_ends_step continued
  | cancel reason =>
    obtain ⟨rfl, rfl⟩ := continued.of_done
    exact .idle (.refl _) (.cancelled _ reason)
  | pause =>
    obtain ⟨middle, _, _, rfl, changed, last⟩ := continued.of_bind
    obtain ⟨rfl, rfl⟩ := last.of_done
    rw [List.append_nil]
    exact .idle ((steady_of_ends_change changed).set _ rfl _ _) (.paused rfl)

theorem spent_of_ends_paused
    (paused : execution.isPaused = true)
    (ends : execution.pausedActivity.Ends history result) :
    Spent execution history result := by
  obtain ⟨heard, rest, rfl, continued⟩ := Program.Ends.of_request ends
  have begun : Steady execution [⟨.listen execution.listener, heard⟩] execution :=
    steady_exchange rfl rfl rfl
  cases heard with
  | silence signal =>
    refine .after_steady begun ?_
    cases signal <;> obtain ⟨rfl, rfl⟩ := continued.of_done <;>
      exact .idle (.refl execution) (.cancelled _ _)
  | news signal listener =>
    cases signal with
    | pause =>
      obtain ⟨rfl, rfl⟩ := continued.of_done
      exact .idle (begun.set _ rfl listener _) (.paused paused)
    | cancel reason =>
      obtain ⟨rfl, rfl⟩ := continued.of_done
      exact .idle (begun.set _ rfl listener _) (.cancelled _ reason)
    | run =>
      obtain ⟨resumed, _, _, rfl, changed, stepped⟩ := Program.Ends.of_bind continued
      exact .after_steady (begun.set _ rfl listener false)
        (.after_steady (steady_of_ends_change changed) (spent_of_ends_step stepped))

/-- Whatever an execution does in a turn has one of four forms. -/
theorem spent_of_ends
    (ends : execution.activity.Ends history result) :
    Spent execution history result := by
  unfold activity at ends
  split at ends
  next paused => exact spent_of_ends_paused paused ends
  next => exact spent_of_ends_running ends

theorem acted_of_ends
    (ends : execution.activity.Ends history result) :
    Acted execution history result :=
  (spent_of_ends ends).acted

end

/-- A turn leads to another one, or it ends the execution. -/
theorem ends_turn
    {execution : Execution}
    {history : History}
    {next : Next}
    (ends : execution.turn.Ends history next) :
    (∃ last, execution.activity.Ends history (last, .goOn) ∧ next = .turn last) ∨
      ∃ last ending first rest record, history = first ++ rest ∧
        execution.activity.Ends first (last, .finish ending) ∧
        (last.finalize ending).Ends rest record ∧ next = .ended record := by
  obtain ⟨⟨last, flow⟩, first, rest, rfl, acted, continued⟩ := Program.Ends.of_bind ends
  cases flow with
  | goOn =>
    obtain ⟨rfl, rfl⟩ := continued.of_done
    rw [List.append_nil]
    exact .inl ⟨last, acted, rfl⟩
  | finish ending =>
    obtain ⟨record, closing, _, rfl, closed, finished⟩ := continued.of_bind
    obtain ⟨rfl, rfl⟩ := finished.of_done
    rw [List.append_nil]
    exact .inr ⟨last, ending, first, closing, record, rfl, acted, closed, rfl⟩

end Execution
end WorkflowEngine
