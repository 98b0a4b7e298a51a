import WorkflowEngine.Engine.World
import WorkflowEngine.Proofs.Evolution
import WorkflowEngine.Proofs.FinishedWork

/-!
# Dry runs

In a dry run only those handlers are called that avoid effects by themselves.  Any other
step that has a handler succeeds at once when it is dispatched, with an account of what
it was to do.
-/

namespace WorkflowEngine

/-- A step is only pretended to be done: it succeeds at once, and says so, with its type
and the keys of its input. -/
structure Work.IsSimulated (work : Work) : Prop where
  succeeded : work.outcome.succeeded = true
  raised : work.outcome.raised = false
  duration : work.outcome.duration = .zero
  data : work.outcome.result.data =
    [("dryRun", .bool true),
     ("inputKeys", .ofTexts (Dict.keys work.invocation.input)),
     ("stepType", .text work.invocation.step.type.name)]

theorem Work.isSimulated_of_outcome_eq
    {work : Work}
    (same : work.outcome = .simulated work.invocation.step work.invocation.input) :
    work.IsSimulated := by
  constructor <;> rw [same] <;> rfl

/-- Executions know of every handler whether it avoids effects in a dry run. -/
theorem World.lookup_handled
    {σ : Type}
    (world : World σ)
    (type : StepType) :
    world.environment.handled.lookup type =
      (world.actions.find? type).map Handler.supportsDryRun := by
  unfold environment Actions.find?
  dsimp only
  induction world.actions with
  | nil => rfl
  | cons entry rest inductionHypothesis =>
    obtain ⟨other, handler⟩ := entry
    rw [List.map_cons, List.lookup_cons, List.lookup_cons, inductionHypothesis]
    cases type == other <;> rfl

namespace Dispatch

variable {environment : Environment} {context : Context} {step : Step} {input : Object}

/-- What a dry run calls has a handler that avoids effects. -/
theorem lookup_of_call
    {invocation : Invocation}
    (dry : context.dryRun = true)
    (called : Dispatch.ofStep environment context step input = .call invocation) :
    environment.handled.lookup step.type = some true := by
  unfold ofStep at called
  split at called
  next => cases called
  next avoidsEffects handled =>
    cases avoidsEffects with
    | false => simp [dry] at called
    | true => exact handled

/-- What has effects is simulated in a dry run. -/
theorem ofStep_of_effects
    (dry : context.dryRun = true)
    (effects : environment.handled.lookup step.type = some false) :
    Dispatch.ofStep environment context step input = .settled (.simulated step input) := by
  simp [ofStep, effects, dry]

end Dispatch

/-- An attempt at a step that has effects comes to a simulation in a dry run. -/
theorem Attempted.eq_simulated
    {environment : Environment}
    {context : Context}
    {step : Step}
    {input : Object}
    {history : History}
    {outcome : Outcome}
    (attempted : Attempted environment context step input history (some outcome))
    (dry : context.dryRun = true)
    (effects : environment.handled.lookup step.type = some false) :
    outcome = .simulated step input := by
  have simulated : Dispatch.ofStep environment context step input =
      .settled (.simulated step input) :=
    Dispatch.ofStep_of_effects dry effects
  cases attempted with
  | settled dispatched =>
    rw [simulated] at dispatched
    cases dispatched
    rfl
  | answered dispatched =>
    rw [simulated] at dispatched
    cases dispatched

namespace Execution

section

variable
  {σ : Type}
  {world : World σ}
  {workflow : Workflow}
  {call : Call}
  {execution : Execution}
  {history : History}
  {step : Step}

/-- The input of what is dispatched has its keys in order. -/
theorem Dispatches.sorted_input
    {invocation : Invocation}
    (dispatches : execution.Dispatches step invocation)
    (ordered : execution.context.IsOrdered) :
    Dict.Sorted invocation.input := by
  rw [← dispatches.context_eq] at ordered
  rcases dispatches.resolved with resolved | empty
  · exact Step.sorted_of_resolveInput ordered resolved
  · rw [empty]
    exact List.Pairwise.nil

/-- In a dry run no handler is called that may have effects, neither for a step nor for
a retry nor for a branch.  Whatever is dispatched to such a handler is simulated, and
the keys of its input are given in order. -/
theorem Run.dry_run_has_no_effects
    {now : Program Next}
    (run : Run world.environment workflow call history now)
    (dry : call.options.dryRun = true) :
    (∀ called ∈ history.invocations, ∃ handler,
      world.actions.find? called.1.step.type = some handler ∧ handler.supportsDryRun = true) ∧
    ∀ next, now = .done next → ∃ works lost,
      RunWork world.environment workflow call history works lost ∧
      Accounted works history.attempts ∧
      ∀ work ∈ works ++ lost, ∀ handler,
        world.actions.find? work.invocation.step.type = some handler →
        handler.supportsDryRun = false →
          work.IsSimulated ∧ (Dict.keys work.invocation.input).Pairwise (· < ·) := by
  constructor
  · intro called member
    obtain ⟨_, _, _, execution, _, _, begun, turned, member⟩ := run.exists_turn_of_call member
    obtain ⟨step, -, calls⟩ := calls_of_turn turned member
    have dispatched := calls.called
    rw [calls.dispatches.context_eq, begun.follows.environment_eq] at dispatched
    have handled := Dispatch.lookup_of_call (begun.dryRun_eq.trans dry) dispatched
    rw [world.lookup_handled] at handled
    exact Option.map_eq_some_iff.mp handled
  · rintro next rfl
    obtain ⟨works, lost, runWork, -, dispatched⟩ := run.exists_works
    refine ⟨works, lost, runWork, runWork.audited.accounted, ?_⟩
    intro work member handler found effects
    have handled : world.environment.handled.lookup work.invocation.step.type = some false := by
      rw [world.lookup_handled, found, ← effects]
      rfl
    obtain ⟨past, execution, step, begun, -, does⟩ := dispatched work member
    obtain ⟨part, attempted⟩ := does.attempted
    rw [does.dispatches.context_eq, begun.follows.environment_eq] at attempted
    refine ⟨Work.isSimulated_of_outcome_eq ?_, ?_⟩
    · exact attempted.eq_simulated (begun.dryRun_eq.trans dry) handled
    · exact List.pairwise_map.mpr (does.dispatches.sorted_input begun.ordered)

end

/-- A workflow that buys something in a branch, plans something, and buys something else
with retries. -/
def purchase : Workflow where
  id := "purchase"
  steps :=
    [{ id := "fan", type := .parallel
       config := .object [("stepIds", .array [.text "reserve"])] },
     { id := "reserve", type := .custom "buy", order := 1 },
     { id := "plan", type := .custom "plan", order := 2 },
     { id := "order", type := .custom "buy", order := 3
       failure := { action := some .retry, maxRetries := some 1, retryDelayMs := some 0 } }]

/-- An engine with a handler that may have effects and another one that avoids them. -/
def shop : World Unit where
  actions :=
    [(.custom "buy", ⟨"buys", false, fun _ state => (some ⟨.zero, .ok .succeed⟩, state)⟩),
     (.custom "plan", ⟨"plans", true, fun _ state => (some ⟨.zero, .ok .succeed⟩, state)⟩)]
  state := ()

/-- A dry run plans, but it does not buy anything. -/
theorem dry_run_of_purchase :
    ∃ history record,
      played shop.environment purchase
        { executionId := "run", input := [("item", .text "pen")], options := { dryRun := true } }
        6 [] = (history, .ended record) ∧
      record.status = .completed ∧
      history.trail.map StepRecord.stepId = ["reserve", "fan", "plan", "order"] ∧
      history.invocations.map (fun called => called.1.step.id) = ["plan"] ∧
      (∀ called ∈ history.invocations, ∃ handler,
        shop.actions.find? called.1.step.type = some handler ∧
          handler.supportsDryRun = true) ∧
      history.trail.head?.map StepRecord.output =
        some [("dryRun", .bool true), ("inputKeys", .ofTexts ["item"]),
          ("stepType", .text "buy")] := by
  have run := run_played shop.environment purchase
    { executionId := "run", input := [("item", .text "pen")], options := { dryRun := true } } 6 []
  obtain ⟨record, ended, completed⟩ : ∃ record,
      (played shop.environment purchase
        { executionId := "run", input := [("item", .text "pen")], options := { dryRun := true } }
        6 []).2 = .ended record ∧ record.status = .completed := ⟨_, rfl, rfl⟩
  rw [ended] at run
  exact ⟨_, record, Prod.ext rfl ended, completed, rfl, rfl,
    (run.dry_run_has_no_effects rfl).1, rfl⟩

end Execution
end WorkflowEngine
