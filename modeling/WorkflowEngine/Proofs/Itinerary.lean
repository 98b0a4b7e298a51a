import WorkflowEngine.Proofs.Blocks
import WorkflowEngine.Proofs.Counters
import WorkflowEngine.Proofs.Trail

/-!
# The shape of the trail

The steps that a run visits can be read off its turns and its looks at the clock.  Each
of them leaves its block of records behind, and there is nothing else on the trail.
-/

namespace WorkflowEngine
namespace Execution

/-- The step that is entered in a turn with some looks at the clock.  It is the one under
the cursor, and the first look finds that there is time. -/
def entered? (execution : Execution) (clocks : List Span) : Option Step :=
  if clocks.head?.any fun clock => !execution.isTimedOut clock then
    execution.schedule.current?
  else none

/-- The step that is visited in a turn: the one that is entered, unless it is passed
over. -/
def visit? (execution : Execution) (clocks : List Span) : Option Step :=
  (execution.entered? clocks).filter fun step => !execution.passesOver step clocks.tail

/-- The steps that a run visits, in the order of its turns. -/
inductive Itinerary (environment : Environment) (workflow : Workflow) (call : Call) :
    History → List Step → Next → Prop
  | start
      {history : History}
      {next : Next}
      (begun : (start environment workflow call).Ends history next) :
      Itinerary environment workflow call history [] next
  | turn
      {past history : History}
      {steps : List Step}
      {execution : Execution}
      {next : Next}
      (earlier : Itinerary environment workflow call past steps (.turn execution))
      (turned : execution.turn.Ends history next) :
      Itinerary environment workflow call (past ++ history)
        (steps ++ (execution.visit? history.clocks).toList) next

/-! ## Turns -/

section

variable
  {before after : Execution}
  {history : History}

theorem Steady.passesOver_eq
    (steady : Steady before history after)
    (step : Step)
    (clocks : List Span) :
    after.passesOver step clocks = before.passesOver step clocks := by
  obtain ⟨_, _, _, rfl⟩ := steady.after_eq
  rfl

theorem visit?_nil (execution : Execution) : execution.visit? [] = none := rfl

/-- No step is visited once time has run out. -/
theorem visit?_of_isTimedOut
    {clock : Span}
    (expired : before.isTimedOut clock = true)
    (clocks : List Span) :
    before.visit? (clock :: clocks) = none := by
  simp [visit?, entered?, expired]

/-- In time the current step is visited unless it is passed over. -/
theorem visit?_of_current?
    {clock : Span}
    {step : Step}
    (timely : before.isTimedOut clock = false)
    (current : before.schedule.current? = some step)
    (clocks : List Span) :
    before.visit? (clock :: clocks) =
      if before.passesOver step clocks then none else some step := by
  unfold visit? entered?
  simp only [List.head?_cons, Option.any_some, timely, current, List.tail_cons]
  cases passed : before.passesOver step clocks <;> simp [passed]

/-- The step that is visited in a turn leaves its block behind, and nothing else does. -/
theorem Spent.blocks
    {result : Execution × Flow}
    (spent : Spent before history result) :
    ∃ blocks,
      List.Forall₂ (Block before.environment before.workflow)
        (before.visit? history.clocks).toList blocks ∧
      history.attempts = blocks.flatten := by
  cases spent with
  | idle steady =>
    rw [steady.unclocked, visit?_nil, steady.toKept.attempts_eq_nil]
    exact ⟨[], .nil, rfl⟩
  | exhausted steady =>
    rw [steady.unclocked, visit?_nil, steady.toKept.attempts_eq_nil]
    exact ⟨[], .nil, rfl⟩
  | @late opening clock _ steady expired =>
    have looked : History.clocks (opening ++ [⟨.clock, clock⟩]) = [clock] := by
      rw [History.clocks_append, steady.unclocked]
      rfl
    rw [looked, visit?_of_isTimedOut expired, History.attempts_append,
      steady.toKept.attempts_eq_nil]
    exact ⟨[], .nil, rfl⟩
  | @visited step opening visit closing clock middle _ _ opened current timely ends synced =>
    have written : History.attempts (opening ++ [⟨.clock, clock⟩] ++ visit ++ closing) =
        visit.attempts := by
      rw [History.attempts_append, History.attempts_append, History.attempts_append,
        opened.toKept.attempts_eq_nil, synced.toKept.attempts_eq_nil, List.append_nil]
      rfl
    have block := block_of_runStep ends
    rw [opened.clocks_around synced, written, visit?_of_current? timely current,
      ← opened.passesOver_eq, ← opened.environment, ← opened.workflow]
    split at block
    next passed =>
      rw [if_pos passed]
      exact ⟨[], .nil, block⟩
    next entered =>
      rw [if_neg entered]
      exact ⟨[visit.attempts], .cons block .nil, by simp⟩

/-- A turn leaves the block of the step that it visits, and nothing else. -/
theorem blocks_of_turn
    {next : Next}
    (ends : before.turn.Ends history next) :
    ∃ blocks,
      List.Forall₂ (Block before.environment before.workflow)
        (before.visit? history.clocks).toList blocks ∧
      history.attempts = blocks.flatten := by
  rcases ends_turn ends with
    ⟨last, acted, -⟩ | ⟨last, ending, acting, closing, record, rfl, acted, closes, -⟩
  · exact (spent_of_ends acted).blocks
  · rw [History.clocks_append, (ends_finalize closes).1, History.attempts_append,
      (closed_of_ends closes).attempts_eq_nil, List.append_nil, List.append_nil]
    exact (spent_of_ends acted).blocks

theorem mem_steps_of_visit?
    {clocks : List Span}
    {step : Step}
    (visited : before.visit? clocks = some step) :
    step ∈ before.schedule.steps := by
  obtain ⟨entered, -⟩ := Option.filter_eq_some_iff.mp visited
  unfold entered? at entered
  split at entered
  · exact Schedule.mem_steps_of_current? entered
  · cases entered

end

/-! ## Runs -/

section

variable
  {environment : Environment}
  {workflow : Workflow}
  {call : Call}
  {history : History}
  {steps : List Step}
  {next : Next}

namespace Itinerary

/-- An itinerary is that of a run. -/
theorem run
    (itinerary : Itinerary environment workflow call history steps next) :
    Run environment workflow call history (.done next) := by
  induction itinerary with
  | start begun => exact .start begun
  | turn _ turned inductionHypothesis => exact .turn inductionHypothesis turned

theorem mem_steps
    (itinerary : Itinerary environment workflow call history steps next) :
    ∀ step ∈ steps, step ∈ workflow.steps := by
  induction itinerary with
  | start => simp
  | turn earlier _ inductionHypothesis =>
    rw [List.forall_mem_append]
    refine ⟨inductionHypothesis, fun step member => ?_⟩
    exact earlier.run.follows.mem_steps (mem_steps_of_visit? (Option.mem_toList.mp member))

/-- The blocks of the steps that are visited make up the trail. -/
theorem exists_blocks
    (itinerary : Itinerary environment workflow call history steps next) :
    ∃ blocks, List.Forall₂ (Block environment workflow) steps blocks ∧
      history.attempts = blocks.flatten := by
  induction itinerary with
  | start begun => exact ⟨[], .nil, (started_of_ends begun).attempts_eq_nil⟩
  | turn earlier turned inductionHypothesis =>
    obtain ⟨blocks, shaped, written⟩ := inductionHypothesis
    obtain ⟨more, last, added⟩ := blocks_of_turn turned
    rw [earlier.run.follows.environment_eq, earlier.run.follows.workflow_eq] at last
    refine ⟨blocks ++ more, List.rel_append shaped last, ?_⟩
    rw [History.attempts_append, written, added, List.flatten_append]

end Itinerary

/-- Every run has an itinerary. -/
theorem Run.exists_itinerary
    (run : Run environment workflow call history (.done next)) :
    ∃ steps, Itinerary environment workflow call history steps next := by
  generalize reached : Program.done next = now at run
  induction run generalizing next with
  | start begun =>
    subst reached
    exact ⟨[], .start begun⟩
  | turn _ turned inductionHypothesis =>
    subst reached
    obtain ⟨steps, earlier⟩ := inductionHypothesis rfl
    exact ⟨_, .turn earlier turned⟩

/-- The trail of a run is made up of blocks, one for each step that is visited, in the
order of the visits.  A step is visited if it is entered, its conditions are not false and
its time is not up before its dispatch.  The metrics at the end of the run are the length
of the trail and the number of its retries. -/
theorem Run.trail_eq_blocks
    (run : Run environment workflow call history (.done next))
    (accepted : ∀ attempt error, ⟨.append attempt, .error error⟩ ∉ history) :
    ∃ steps blocks,
      Itinerary environment workflow call history steps next ∧
      (∀ step ∈ steps, step ∈ workflow.steps) ∧
      List.Forall₂ (Block environment workflow) steps blocks ∧
      history.trail = blocks.flatten ∧
      ∀ record, next = .ended record →
        Dict.find? "attempts" record.metrics = some (.ofNat history.trail.length) ∧
        Dict.find? "retries" record.metrics =
          some (.ofNat (history.trail.countP fun attempt => 0 < attempt.retryCount)) := by
  obtain ⟨steps, itinerary⟩ := run.exists_itinerary
  obtain ⟨blocks, shaped, written⟩ := itinerary.exists_blocks
  rw [History.trail_eq_attempts accepted]
  refine ⟨steps, blocks, itinerary, itinerary.mem_steps, shaped, written, ?_⟩
  rintro record rfl
  exact run.metrics

end

/-- A fan-out with its branch, a failed attempt and its retry: four attempts, and one of
them a retry. -/
theorem blocks_of_spread :
    spread.isValid = true ∧
    ∃ history record steps blocks,
      played { handled := [(.custom "call", true)] } spread { executionId := "run" } 5
        spreadReplies = (history, .ended record) ∧
      Itinerary { handled := [(.custom "call", true)] } spread { executionId := "run" } history
        steps (.ended record) ∧
      List.Forall₂ (Block { handled := [(.custom "call", true)] } spread) steps blocks ∧
      history.trail = blocks.flatten ∧
      history.trail.map (fun attempt => (attempt.stepId, attempt.retryCount)) =
        [("branch", 0), ("fan", 0), ("last", 0), ("last", 1)] ∧
      Dict.find? "attempts" record.metrics = some (.ofNat 4) ∧
      Dict.find? "retries" record.metrics = some (.ofNat 1) := by
  have run := run_played { handled := [(.custom "call", true)] } spread { executionId := "run" } 5
    spreadReplies
  obtain ⟨record, ended⟩ : ∃ record,
      (played { handled := [(.custom "call", true)] } spread { executionId := "run" } 5
        spreadReplies).2 = .ended record := ⟨_, rfl⟩
  rw [ended] at run
  obtain ⟨steps, blocks, itinerary, -, shaped, written, metrics⟩ :=
    run.trail_eq_blocks (accepted_playTurns _ _ _)
  obtain ⟨attempts, retries⟩ := metrics record rfl
  exact ⟨by rfl, _, record, steps, blocks, Prod.ext rfl ended, itinerary, shaped, written, rfl,
    attempts, retries⟩

end Execution
end WorkflowEngine
