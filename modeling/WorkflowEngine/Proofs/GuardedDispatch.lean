import WorkflowEngine.Proofs.Evolution
import WorkflowEngine.Proofs.FinishedWork

/-!
# Guarded dispatch

A step is dispatched only where it is active and its conditions hold.  They are looked
at once for a step and its retries, and once for each branch, but the context is the
same whenever the step is dispatched.
-/

namespace WorkflowEngine
namespace Execution

/-- An execution guards the dispatch of a step in its turn.  The step is active, and its
conditions hold over the context that it is dispatched with, which is the one at the
start of the turn.  It is the step under the cursor, or a branch of it. -/
structure Guards
    (environment : Environment)
    (execution : Execution)
    (invocation : Invocation) : Prop where
  active : invocation.step.isActive = true
  met : Condition.evaluateAll environment.settings.semantics invocation.step.conditions
    (.object invocation.context.data) = .ok true
  context_eq : invocation.context = execution.context
  visited : ∃ step, execution.schedule.current? = some step ∧
    (invocation.step = step ∨
      step.type = .parallel ∧ invocation.step ∈ execution.schedule.branches step)

section

variable
  {environment : Environment}
  {workflow : Workflow}
  {call : Call}
  {execution : Execution}
  {history : History}
  {step : Step}
  {invocation : Invocation}

/-- Whatever is dispatched in a turn of a run is guarded. -/
theorem Dispatches.guards
    (dispatches : execution.Dispatches step invocation)
    (run : Run environment workflow call history (.done (.turn execution)))
    (current : execution.schedule.current? = some step) :
    execution.Guards environment invocation where
  active := dispatches.isActive (run.isActive_of_current? current)
  met := by
    rw [dispatches.context_eq, ← run.semantics_eq]
    exact dispatches.dispatched_met
  context_eq := dispatches.context_eq
  visited := by
    refine ⟨step, current, ?_⟩
    cases dispatches with
    | itself => exact .inl rfl
    | branch parallel _ member => exact .inr ⟨parallel, member⟩

/-- Every step that a run dispatches is guarded, whether its handler is called or not,
in a first attempt, a retry or a branch.  In a turn in which the conditions of the step
under the cursor do not hold or cannot be evaluated, nothing is dispatched, whatever the
step says about its failure. -/
theorem Run.dispatches_guarded
    {now : Program Next}
    (run : Run environment workflow call history now) :
    (∀ called ∈ history.invocations, ∃ past acting rest execution reached,
      history = past ++ acting ++ rest ∧
      Run environment workflow call past (.done (.turn execution)) ∧
      execution.turn.Reaches acting reached ∧ called ∈ acting.invocations ∧
      execution.Guards environment called.1) ∧
    ∀ past acting rest execution last flow,
      history = past ++ acting ++ rest →
      Run environment workflow call past (.done (.turn execution)) →
      execution.activity.Ends acting (last, flow) →
      ∃ works lost, TurnWork execution acting works lost ∧ Accounted works acting.attempts ∧
        (∀ work ∈ works ++ lost, execution.Guards environment work.invocation) ∧
        ∀ step, execution.schedule.current? = some step →
          Condition.evaluateAll environment.settings.semantics step.conditions
              (.object execution.context.data) ≠ .ok true →
            acting.invocations = [] ∧ works = [] ∧ lost = [] := by
  constructor
  · intro called member
    obtain ⟨past, acting, rest, execution, reached, same, begun, turned, member⟩ :=
      run.exists_turn_of_call member
    obtain ⟨step, current, calls⟩ := calls_of_turn turned member
    exact ⟨past, acting, rest, execution, reached, same, begun, turned, member,
      calls.dispatches.guards begun current⟩
  · rintro past acting rest execution last flow - begun ends
    have acted := acted_of_ends ends
    obtain ⟨works, lost, turned, -, does⟩ := acted.exists_works
    refine ⟨works, lost, turned, turned.audited.accounted, fun work member => ?_, ?_⟩
    · obtain ⟨step, current, done⟩ := does work member
      exact done.dispatches.guards begun current
    · intro step current unmet
      rw [← begun.semantics_eq] at unmet
      have uncalled : acting.invocations = [] := by
        by_contra some
        obtain ⟨called, member⟩ := List.exists_mem_of_ne_nil _ some
        obtain ⟨_, same, calls⟩ := acted.calls_dispatched member
        obtain rfl := Option.some.inj (current.symm.trans same)
        exact unmet calls.dispatches.met
      have undone : works ++ lost = [] := by
        by_contra some
        obtain ⟨work, member⟩ := List.exists_mem_of_ne_nil _ some
        obtain ⟨_, same, done⟩ := does work member
        obtain rfl := Option.some.inj (current.symm.trans same)
        exact unmet done.dispatches.met
      exact ⟨uncalled, List.append_eq_nil_iff.mp undone⟩

end

/-- A workflow with a step whose condition holds, one whose condition does not, and one
whose condition cannot be evaluated, to be tried again. -/
def guarded : Workflow where
  id := "guarded"
  steps :=
    [{ id := "met", type := .custom "call"
       conditions := [⟨"flag", .isNotNull, .null, none⟩] },
     { id := "unmet", type := .custom "call", order := 1
       conditions := [⟨"flag", .isNull, .null, none⟩] },
     { id := "broken", type := .custom "call", order := 2
       conditions := [⟨"flag", .regexMatch, .bool true, none⟩]
       failure := { action := some .retry, maxRetries := some 1, retryDelayMs := some 0 } }]
  «variables» := {
    entries := [("flag", .bool true)]
    sorted := by decide }

/-- Only the first of them is dispatched, with its condition met. -/
theorem guarded_dispatch :
    guarded.isValid = true ∧
    ∃ history record,
      played { handled := [(.custom "call", true)] } guarded { executionId := "run" } 5 [] =
        (history, .ended record) ∧
      history.invocations.map (fun called => called.1.step.id) = ["met"] ∧
      history.trail.map StepRecord.stepId = ["met", "broken"] ∧
      ∀ called ∈ history.invocations,
        Condition.evaluateAll .precedence called.1.step.conditions
          (.object called.1.context.data) = .ok true := by
  have run := run_played { handled := [(.custom "call", true)] } guarded { executionId := "run" }
    5 []
  obtain ⟨record, ended⟩ : ∃ record,
      (played { handled := [(.custom "call", true)] } guarded { executionId := "run" } 5 []).2 =
        .ended record := ⟨_, rfl⟩
  rw [ended] at run
  refine ⟨by rfl, _, record, Prod.ext rfl ended, rfl, rfl, fun called member => ?_⟩
  obtain ⟨_, _, _, _, _, _, _, _, _, guards⟩ := run.dispatches_guarded.1 called member
  exact guards.met

end Execution
end WorkflowEngine
