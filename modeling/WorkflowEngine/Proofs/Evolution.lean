import WorkflowEngine.Proofs.Keys
import WorkflowEngine.Proofs.Run

/-!
# What an execution may become

The cursor of an execution never rests on a step that is inactive or owned by another
one.  Of its context only the variables and the data change, and they stay in the order
of their keys.
-/

namespace WorkflowEngine

/-- Writing at a path keeps the keys in order. -/
theorem Object.sorted_put
    {entries : Object}
    (sorted : Dict.Sorted entries)
    (path : String)
    (value : Json) :
    Dict.Sorted (put path value entries) := by
  unfold put
  match Path.segments path with
  | [] => exact sorted
  | [key] => exact sorted.insert key value
  | key :: next :: rest => exact sorted.insert key _

/-- Fields are added to an input in the order of keys. -/
theorem resolveFields_sorted
    {context : Context}
    {mappings : Dict InputMapping}
    {begun input : Object}
    (sorted : Dict.Sorted begun)
    (resolved : resolveFields context mappings begun = .ok input) :
    Dict.Sorted input := by
  induction mappings generalizing begun with
  | nil =>
    cases resolved
    exact sorted
  | cons entry rest inductionHypothesis =>
    obtain ⟨field, mapping⟩ := entry
    unfold resolveFields at resolved
    split at resolved
    next => exact inductionHypothesis (Object.sorted_put sorted field _) resolved
    next =>
      split at resolved
      next => cases resolved
      next => exact inductionHypothesis sorted resolved

/-! ## Contexts -/

/-- The variables and the data of a context are in the order of their keys. -/
structure Context.IsOrdered (context : Context) : Prop where
  variables_sorted : Dict.Sorted context.variables
  data_sorted : Dict.Sorted context.executionData

/-- Of a context nothing has changed but the variables and the data. -/
structure Context.Grows (before after : Context) : Prop where
  exists_eq : ∃ vars data,
    after = { before with «variables» := vars, executionData := data }
  ordered : before.IsOrdered → after.IsOrdered

namespace Context

variable {before middle after : Context}

theorem Grows.refl (context : Context) : context.Grows context := ⟨⟨_, _, rfl⟩, id⟩

theorem Grows.trans (first : before.Grows middle) (second : middle.Grows after) :
    before.Grows after where
  exists_eq := by
    obtain ⟨_, _, rfl⟩ := first.exists_eq
    obtain ⟨vars, data, rfl⟩ := second.exists_eq
    exact ⟨vars, data, rfl⟩
  ordered := second.ordered ∘ first.ordered

end Context

/-- One field that is stored changes the variables or the data. -/
theorem OutputMapping.grows_apply
    (mapping : OutputMapping)
    (field : String)
    (value : Json)
    (context : Context) :
    context.Grows (mapping.apply field value context) := by
  unfold apply
  split
  · exact ⟨⟨_, _, rfl⟩, fun ordered =>
      ⟨Object.sorted_put ordered.variables_sorted _ _, ordered.data_sorted⟩⟩
  all_goals
    exact ⟨⟨_, _, rfl⟩, fun ordered =>
      ⟨ordered.variables_sorted, Object.sorted_put ordered.data_sorted _ _⟩⟩

theorem grows_applyFields
    (result : Object)
    (mappings : Dict OutputMapping)
    (context : Context) :
    context.Grows (applyFields result mappings context) := by
  induction mappings generalizing context with
  | nil => exact .refl context
  | cons entry rest inductionHypothesis =>
    obtain ⟨field, mapping⟩ := entry
    unfold applyFields
    split
    · exact (mapping.grows_apply field _ context).trans (inductionHypothesis _)
    · exact inductionHypothesis context

/-- The result of a step goes to the variables and to the data alone. -/
theorem Step.grows_applyOutput
    (step : Step)
    (result : Object)
    (context : Context) :
    context.Grows (step.applyOutput result context) := by
  unfold applyOutput
  split
  · exact ⟨⟨_, _, rfl⟩, fun ordered =>
      ⟨ordered.variables_sorted, ordered.data_sorted.merge result⟩⟩
  · exact grows_applyFields _ _ _

/-- The input of a step is in the order of its keys. -/
theorem Step.sorted_of_resolveInput
    {step : Step}
    {context : Context}
    {input : Object}
    (ordered : context.IsOrdered)
    (resolved : step.resolveInput context = .ok input) :
    Dict.Sorted input := by
  unfold resolveInput at resolved
  split at resolved
  next =>
    cases resolved
    exact ordered.variables_sorted.merge _
  next => exact resolveFields_sorted List.Pairwise.nil resolved

/-! ## Cursors -/

namespace Schedule

/-- The cursor is behind the last step, or it rests on one that may run. -/
def Rests (schedule : Schedule) : Prop :=
  ∀ step, schedule.current? = some step → schedule.isRunnable schedule.cursor step = true

/-- The cursor is at the first step at or behind a position on which it may rest, or
behind all steps if there is none. -/
structure LandsAt (schedule : Schedule) (position : Nat) : Prop where
  notBefore : position ≤ schedule.cursor
  bounded : schedule.cursor ≤ max position schedule.steps.length
  rests : schedule.Rests
  passed : ∀ earlier step, position ≤ earlier → earlier < schedule.cursor →
    schedule.steps[earlier]? = some step → schedule.isRunnable earlier step = false

/-- The cursor settles on the first step that may run, of those from a position on. -/
theorem landsAt_settleFrom
    {schedule : Schedule}
    {position : Nat}
    {steps : List Step}
    (rest : schedule.steps.drop position = steps) :
    { schedule with cursor := schedule.settleFrom position steps }.LandsAt position := by
  induction steps generalizing position with
  | nil =>
    have behind : schedule.steps.length ≤ position := List.drop_eq_nil_iff.mp rest
    refine ⟨le_rfl, le_max_left _ _, fun step found => ?_, fun earlier _ after before => ?_⟩
    · rw [current?, settleFrom, List.getElem?_eq_none behind] at found
      cases found
    · exact (after.not_gt before).elim
  | cons first others inductionHypothesis =>
    have here : schedule.steps[position]? = some first := by
      rw [← List.head?_drop, rest, List.head?_cons]
    have next : schedule.steps.drop (position + 1) = others := by
      rw [← List.tail_drop, rest, List.tail_cons]
    obtain ⟨inside, -⟩ := List.getElem?_eq_some_iff.mp here
    rw [settleFrom]
    split
    next runnable =>
      refine ⟨le_rfl, le_max_left _ _, fun step found => ?_, fun earlier _ after before => ?_⟩
      · obtain rfl := Option.some.inj (here.symm.trans found)
        exact runnable
      · exact (after.not_gt before).elim
    next blocked =>
      obtain ⟨notBefore, bounded, rests, passed⟩ := inductionHypothesis next
      have further : max (position + 1) schedule.steps.length ≤
          max position schedule.steps.length := by
        omega
      refine ⟨by omega, bounded.trans further, rests, fun earlier step after before there => ?_⟩
      rcases after.eq_or_lt with rfl | after
      · obtain rfl := Option.some.inj (here.symm.trans there)
        exact Bool.eq_false_iff.mpr blocked
      · exact passed earlier step after before there

theorem landsAt_settleAt (schedule : Schedule) (position : Nat) :
    (schedule.settleAt position).LandsAt position :=
  landsAt_settleFrom rfl

/-- Wherever the cursor settles, a step may run, or there is none left. -/
theorem rests_settleAt (schedule : Schedule) (position : Nat) :
    (schedule.settleAt position).Rests :=
  (schedule.landsAt_settleAt position).rests

theorem rests_stop (schedule : Schedule) : schedule.stop.Rests := by
  intro step current
  rw [current?, stop, List.getElem?_eq_none le_rfl] at current
  cases current

end Schedule

namespace Execution

/-! ## Executions -/

section

variable {before after : Execution}

/-- Of the context only the variables and the data evolve. -/
theorem Evolves.grows (evolves : before.Evolves after) : before.context.Grows after.context := by
  induction evolves with
  | refl => exact .refl _
  | tail _ changed inductionHypothesis =>
    refine inductionHypothesis.trans ?_
    cases changed with
    | kept _ _ _ context =>
      rw [context]
      exact .refl _
    | stored step result => exact step.grows_applyOutput result _
    | _ => exact .refl _

/-- However an execution evolves, its cursor comes to rest where a step may run. -/
theorem Evolves.rests
    (evolves : before.Evolves after)
    (rests : before.schedule.Rests) :
    after.schedule.Rests := by
  induction evolves with
  | refl => exact rests
  | tail _ changed inductionHypothesis =>
    cases changed with
    | kept _ _ schedule =>
      rw [schedule]
      exact inductionHypothesis
    | moved position => exact Schedule.rests_settleAt _ position
    | stopped => exact Schedule.rests_stop _
    | noted | stored => exact inductionHypothesis

end

namespace Run

variable
  {environment : Environment}
  {workflow : Workflow}
  {call : Call}
  {history : History}
  {execution : Execution}

/-- Between any two turns the context is the first one but for what was stored. -/
theorem grows (run : Run environment workflow call history (.done (.turn execution))) :
    (contextFor environment workflow call).Grows execution.context := by
  obtain ⟨_, _, _, evolves⟩ := run.evolves
  exact evolves.grows

/-- Between any two turns the variables and the data are in the order of their keys. -/
theorem ordered (run : Run environment workflow call history (.done (.turn execution))) :
    execution.context.IsOrdered :=
  run.grows.ordered ⟨workflow.variables.sorted.merge call.input, List.Pairwise.nil⟩

/-- Conditions are evaluated throughout as the settings say. -/
theorem semantics_eq (run : Run environment workflow call history (.done (.turn execution))) :
    execution.context.semantics = environment.settings.semantics := by
  obtain ⟨_, _, same⟩ := run.grows.exists_eq
  rw [same]
  rfl

/-- A run is a dry run from its start to its end, or not at all. -/
theorem dryRun_eq (run : Run environment workflow call history (.done (.turn execution))) :
    execution.context.dryRun = call.options.dryRun := by
  obtain ⟨_, _, same⟩ := run.grows.exists_eq
  rw [same]
  rfl

/-- Between any two turns the cursor is where a step may run. -/
theorem rests (run : Run environment workflow call history (.done (.turn execution))) :
    execution.schedule.Rests := by
  obtain ⟨_, _, _, evolves⟩ := run.evolves
  exact evolves.rests (Schedule.rests_settleAt _ 0)

/-- The step under the cursor is active. -/
theorem isActive_of_current?
    {step : Step}
    (run : Run environment workflow call history (.done (.turn execution)))
    (current : execution.schedule.current? = some step) :
    step.isActive = true :=
  (Bool.and_eq_true_iff.mp (run.rests step current)).1

end Run
end Execution
end WorkflowEngine
