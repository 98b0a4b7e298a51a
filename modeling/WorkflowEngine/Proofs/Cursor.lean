import Mathlib.Data.List.Sort
import Mathlib.Order.Bounds.Basic
import WorkflowEngine.Proofs.ExecutionOrder
import WorkflowEngine.Proofs.SubSteps

/-!
# The walk of a cursor

Whatever is done to a schedule, its cursor rests on an active step that no step owns, or
behind all steps.  It moves to the first such step from where it is sent.  So a cursor that
does nothing but advance comes to all of them, one after the other, in the order of
execution.  Nothing is asked of the workflow: identifiers may be missing, or there twice.
-/

namespace WorkflowEngine

/-- The step that is declared at a place is owned: some step lists its identifier, and no
other step with that identifier precedes it. -/
def IsOwnedAt (steps : List Step) (place : Nat) : Prop :=
  ∃ step, steps[place]? = some step ∧ (∃ lister ∈ steps, step.id ∈ lister.subSteps) ∧
    ∀ other twin, Precedes steps other place → steps[other]? = some twin → twin.id ≠ step.id

/-- The step that is declared at a place is active and not owned. -/
def MayRunAt (steps : List Step) (place : Nat) : Prop :=
  ∃ step, steps[place]? = some step ∧ step.isActive = true ∧ ¬IsOwnedAt steps place

theorem MayRunAt.lt_length
    {steps : List Step}
    {place : Nat}
    (may : MayRunAt steps place) :
    place < steps.length := by
  obtain ⟨step, declared, -⟩ := may
  exact (List.getElem?_eq_some_iff.mp declared).1

namespace Schedule

/-- What can be done to a schedule. -/
inductive Operation where
  | advance
  | jumpTo (position : Nat)
  | stop
  | record (id : String) (outcome : StepOutcome)
  | finish

/-- Does one thing to a schedule. -/
def perform (schedule : Schedule) : Operation → Schedule
  | .advance => schedule.advance
  | .jumpTo position => schedule.jumpTo position
  | .stop => schedule.stop
  | .record id outcome => schedule.record id outcome
  | .finish => schedule.finish

/-- The schedule of a workflow after some operations. -/
def after (workflow : Workflow) (operations : List Operation) : Schedule :=
  operations.foldl perform (.ofWorkflow workflow)

variable {schedule : Schedule} {position cursor : Nat}

/-- The cursor rests after whatever was done to the schedule. -/
theorem rests_perform (rests : schedule.Rests) (operation : Operation) :
    (schedule.perform operation).Rests := by
  cases operation with
  | advance => exact schedule.rests_settleAt _
  | jumpTo position => exact schedule.rests_settleAt _
  | stop => exact schedule.rests_stop
  | record id outcome => exact rests
  | finish => exact rests

/-- The cursor of a schedule never rests where it may not. -/
theorem rests_after (workflow : Workflow) (operations : List Operation) :
    (after workflow operations).Rests := by
  unfold after
  induction operations using List.reverseRecOn with
  | nil => exact rests_settleAt _ 0
  | append_singleton operations operation inductionHypothesis =>
    rw [List.foldl_concat]
    exact rests_perform inductionHypothesis operation

/-! ## Where a cursor lands -/

/-- There is an active step at a position, and it is not owned. -/
def MayRestAt (schedule : Schedule) (position : Nat) : Prop :=
  ∃ step, schedule.steps[position]? = some step ∧ step.isActive = true ∧
    schedule.ownsPosition position = false

/-- A cursor is at the least position, from a given one on, at which it may rest, or behind
all steps if there is none. -/
def IsNext (schedule : Schedule) (position cursor : Nat) : Prop :=
  IsLeast {place | position ≤ place ∧ schedule.MayRestAt place} cursor ∨
    (∀ place, position ≤ place → ¬schedule.MayRestAt place) ∧ schedule.steps.length ≤ cursor

/-- A step may be run at a position if it is active and not owned there. -/
theorem isRunnable_eq_true_iff {step : Step} :
    schedule.isRunnable position step = true ↔
      step.isActive = true ∧ schedule.ownsPosition position = false := by
  simp [isRunnable]

theorem MayRestAt.lt_length (rests : schedule.MayRestAt position) :
    position < schedule.steps.length := by
  obtain ⟨step, here, -⟩ := rests
  exact (List.getElem?_eq_some_iff.mp here).1

/-- The cursor settles at the next position at which it may rest. -/
theorem isNext_settleAt (schedule : Schedule) (position : Nat) :
    schedule.IsNext position (schedule.settleAt position).cursor := by
  have lands := schedule.landsAt_settleAt position
  have least : ∀ place, position ≤ place → schedule.MayRestAt place →
      (schedule.settleAt position).cursor ≤ place := by
    rintro place ahead ⟨step, here, may⟩
    by_contra before
    have blocked : schedule.isRunnable place step = false :=
      lands.passed place step ahead (Nat.lt_of_not_le before) here
    simp [isRunnable_eq_true_iff.mpr may] at blocked
  rcases Nat.lt_or_ge (schedule.settleAt position).cursor schedule.steps.length with
    inside | behind
  · have here : schedule.steps[(schedule.settleAt position).cursor]? = some _ :=
      List.getElem?_eq_getElem inside
    have may := isRunnable_eq_true_iff.mp (lands.rests _ here)
    exact .inl ⟨⟨lands.notBefore, _, here, may⟩, fun place next => least place next.1 next.2⟩
  · exact .inr ⟨fun place ahead may => (may.lt_length.trans_le behind).not_ge
      (least place ahead may), behind⟩

/-- After a jump the cursor is at the target, or at the next position behind it at which
it may rest. -/
theorem isNext_jumpTo (schedule : Schedule) (position : Nat) :
    schedule.IsNext position (schedule.jumpTo position).cursor := by
  unfold jumpTo
  rcases Nat.le_total position schedule.steps.length with inside | behind
  · rw [Nat.min_eq_left inside]
    exact schedule.isNext_settleAt position
  · rw [Nat.min_eq_right behind]
    exact .inr ⟨fun place ahead may => (may.lt_length.trans_le behind).not_ge ahead,
      (schedule.landsAt_settleAt _).notBefore⟩

/-! ## Where a cursor rests in turn -/

instance : Decidable (schedule.MayRestAt position) :=
  decidable_of_iff (schedule.steps[position]?.any (schedule.isRunnable position) = true) <| by
    simp [MayRestAt, Option.any_eq_true, isRunnable_eq_true_iff]

/-- The positions at which a cursor may rest, from a given one on. -/
def stopsFrom (schedule : Schedule) (position : Nat) : List Nat :=
  (List.range' position (schedule.steps.length - position)).filter (schedule.MayRestAt ·)

/-- The stops from a position on are all positions from there at which the
cursor may rest. -/
theorem mem_stopsFrom {place : Nat} :
    place ∈ schedule.stopsFrom position ↔ position ≤ place ∧ schedule.MayRestAt place := by
  simp only [stopsFrom, List.mem_filter, List.mem_range'_1, decide_eq_true_eq]
  constructor
  · rintro ⟨⟨ahead, -⟩, may⟩
    exact ⟨ahead, may⟩
  · rintro ⟨ahead, may⟩
    have inside := may.lt_length
    exact ⟨⟨ahead, by omega⟩, may⟩

/-- Stops come in ascending order, each of them once. -/
theorem increasing_stopsFrom (schedule : Schedule) (position : Nat) :
    (schedule.stopsFrom position).Pairwise (· < ·) :=
  (List.pairwise_lt_range' 1).filter _

/-- The least position is the first stop, and the others come behind it. -/
theorem stopsFrom_eq_cons
    (least : IsLeast {place | position ≤ place ∧ schedule.MayRestAt place} cursor) :
    schedule.stopsFrom position = cursor :: schedule.stopsFrom (cursor + 1) := by
  obtain ⟨⟨ahead, may⟩, least⟩ := least
  refine (schedule.increasing_stopsFrom _).eq_of_mem_iff (List.pairwise_cons.mpr
    ⟨fun place member => (mem_stopsFrom.mp member).1, schedule.increasing_stopsFrom _⟩) ?_
  intro place
  rw [List.mem_cons, mem_stopsFrom, mem_stopsFrom]
  constructor
  · rintro ⟨further, rest⟩
    rcases (least ⟨further, rest⟩).eq_or_lt with same | beyond
    · exact .inl same.symm
    · exact .inr ⟨beyond, rest⟩
  · rintro (rfl | ⟨beyond, rest⟩)
    · exact ⟨ahead, may⟩
    · exact ⟨by omega, rest⟩

theorem stopsFrom_eq_nil (none : ∀ place, position ≤ place → ¬schedule.MayRestAt place) :
    schedule.stopsFrom position = [] := by
  rw [List.eq_nil_iff_forall_not_mem]
  intro place member
  obtain ⟨ahead, may⟩ := mem_stopsFrom.mp member
  exact none place ahead may

/-- To advance changes no step. -/
theorem steps_iterate_advance (schedule : Schedule) (count : Nat) :
    (advance^[count] schedule).steps = schedule.steps := by
  induction count generalizing schedule with
  | zero => rfl
  | succ count inductionHypothesis =>
    rw [Function.iterate_succ_apply, inductionHypothesis, steps_advance]

/-- A cursor that advances comes to one stop after the other, and stays behind the last step
when there is none left. -/
theorem getElem?_stopsFrom
    (next : schedule.IsNext position schedule.cursor)
    (count : Nat) :
    (schedule.stopsFrom position)[count]? =
      if (advance^[count] schedule).isFinished then none
      else some (advance^[count] schedule).cursor := by
  induction count generalizing schedule position with
  | zero =>
    rcases next with least | ⟨none, behind⟩
    · have inside : schedule.cursor < schedule.steps.length := least.1.2.lt_length
      simp [stopsFrom_eq_cons least, isFinished, Nat.not_le_of_lt inside]
    · simp [stopsFrom_eq_nil none, isFinished, behind]
  | succ count inductionHypothesis =>
    have rest := inductionHypothesis (schedule.isNext_settleAt (schedule.cursor + 1))
    rw [Function.iterate_succ_apply]
    refine Eq.trans ?_ rest
    rcases next with least | ⟨none, behind⟩
    · rw [stopsFrom_eq_cons least, List.getElem?_cons_succ]
      rfl
    · have empty : schedule.advance.stopsFrom (schedule.cursor + 1) = [] := by
        refine stopsFrom_eq_nil fun place ahead may => ?_
        have inside : place < schedule.steps.length := may.lt_length
        omega
      rw [stopsFrom_eq_nil none]
      exact (congrArg (·[count]?) empty).symm

/-! ## Owned places -/

/-- An identifier has the position of the first step that goes by it. -/
theorem position?_eq_some_iff_first {id : String} :
    schedule.position? id = some position ↔
      (∃ step, schedule.steps[position]? = some step ∧ step.id = id) ∧
        ∀ earlier twin, earlier < position → schedule.steps[earlier]? = some twin →
          twin.id ≠ id := by
  unfold position?
  rw [List.findIdx?_eq_some_iff_getElem]
  constructor
  · rintro ⟨inside, same, others⟩
    refine ⟨⟨_, List.getElem?_eq_getElem inside, by simpa using same⟩, ?_⟩
    intro earlier twin before there
    obtain ⟨within, rfl⟩ := List.getElem?_eq_some_iff.mp there
    simpa using others earlier before
  · rintro ⟨⟨step, here, same⟩, others⟩
    obtain ⟨inside, rfl⟩ := List.getElem?_eq_some_iff.mp here
    refine ⟨inside, by simpa using same, fun earlier before => ?_⟩
    simpa using others earlier _ before (List.getElem?_eq_getElem (before.trans inside))

section

variable
  {steps : List Step}
  {places : List Nat}
  {place : Nat}
  (arranges : Arranges steps schedule.steps places)
  (here : places[position]? = some place)
include arranges here

/-- A position is owned exactly if the step is that was declared for it. -/
theorem ownsPosition_iff_isOwnedAt :
    schedule.ownsPosition position = true ↔ IsOwnedAt steps place := by
  have scheduled (step : Step) :
      schedule.steps[position]? = some step ↔ steps[place]? = some step := by
    rw [arranges.getElem?_sorted, here, Option.bind_some]
  have listed (id : String) : (∃ lister ∈ schedule.steps, id ∈ lister.subSteps) ↔
      ∃ lister ∈ steps, id ∈ lister.subSteps := by
    simp only [arranges.mem_sorted]
  -- The steps at earlier positions are those that precede the one at the place.
  have first (id : String) :
      (∀ earlier twin, earlier < position → schedule.steps[earlier]? = some twin →
        twin.id ≠ id) ↔
      ∀ other twin, Precedes steps other place → steps[other]? = some twin → twin.id ≠ id := by
    constructor
    · intro others other twin precedes there
      obtain ⟨earlier, found⟩ :=
        arranges.exists_position (List.getElem?_eq_some_iff.mp there).1
      refine others earlier twin ((arranges.precedes_iff found here).mp precedes) ?_
      rw [arranges.getElem?_sorted, found, Option.bind_some, there]
    · intro others earlier twin before there
      rw [arranges.getElem?_sorted, Option.bind_eq_some_iff] at there
      obtain ⟨other, found, there⟩ := there
      exact others other twin ((arranges.precedes_iff found here).mpr before) there
  rw [ownsPosition_iff]
  constructor
  · rintro ⟨lister, member, id, lists, found⟩
    obtain ⟨⟨step, there, rfl⟩, others⟩ := position?_eq_some_iff_first.mp found
    exact ⟨step, (scheduled step).mp there, (listed _).mp ⟨lister, member, lists⟩,
      (first _).mp others⟩
  · rintro ⟨step, there, lists, others⟩
    obtain ⟨lister, member, lists⟩ := (listed _).mpr lists
    exact ⟨lister, member, step.id, lists, position?_eq_some_iff_first.mpr
      ⟨⟨step, (scheduled step).mpr there, rfl⟩, (first _).mpr others⟩⟩

/-- The cursor may rest exactly at the steps that may run. -/
theorem mayRestAt_iff_mayRunAt : schedule.MayRestAt position ↔ MayRunAt steps place := by
  unfold MayRestAt MayRunAt
  rw [arranges.getElem?_sorted, here, Option.bind_some, ← ownsPosition_iff_isOwnedAt arranges here]
  simp only [Bool.not_eq_true]

end

/-- The steps at which a cursor stops are those that may run, in the order of execution. -/
theorem exists_visits
    {steps : List Step}
    {places : List Nat}
    (arranges : Arranges steps schedule.steps places) :
    ∃ visits : List Nat, visits.Pairwise (Precedes steps) ∧
      (∀ place, place ∈ visits ↔ MayRunAt steps place) ∧
      ∀ count : Nat, visits[count]? = (schedule.stopsFrom 0)[count]?.bind (places[·]?) := by
  have named : ∀ position ∈ schedule.stopsFrom 0,
      places[position]? = some (places[position]?.getD 0) := by
    intro position member
    have inside := (mem_stopsFrom.mp member).2.lt_length
    rw [arranges.length_sorted, ← arranges.length_eq] at inside
    rw [List.getElem?_eq_getElem inside, Option.getD_some]
  refine ⟨(schedule.stopsFrom 0).map fun position => places[position]?.getD 0, ?_, ?_, ?_⟩
  · refine List.pairwise_map.mpr ((schedule.increasing_stopsFrom 0).imp_of_mem ?_)
    intro position next member further before
    exact (arranges.precedes_iff (named position member) (named next further)).mpr before
  · intro place
    rw [List.mem_map]
    constructor
    · rintro ⟨position, member, rfl⟩
      exact (mayRestAt_iff_mayRunAt arranges (named position member)).mp (mem_stopsFrom.mp member).2
    · intro may
      obtain ⟨position, here⟩ := arranges.exists_position may.lt_length
      have stops : schedule.MayRestAt position := (mayRestAt_iff_mayRunAt arranges here).mpr may
      exact ⟨position, mem_stopsFrom.mpr ⟨Nat.zero_le _, stops⟩, by rw [here, Option.getD_some]⟩
  · intro count
    rw [List.getElem?_map]
    cases found : (schedule.stopsFrom 0)[count]? with
    | none => rfl
    | some position => exact (named position (List.mem_of_getElem? found)).symm

/-- After any operations the cursor of a schedule is behind all steps, or it rests on an
active step that is not owned; it jumps and advances to the first such position there is.
From the start, a cursor that only advances comes to every step that is active and not
owned, once each and in the order of execution, and then stays behind all steps. -/
theorem walks_in_order (workflow : Workflow) :
    (∀ operations : List Operation,
      (∀ step, (after workflow operations).current? = some step →
        step.isActive = true ∧
          (after workflow operations).ownsPosition (after workflow operations).cursor = false) ∧
      (∀ position, (after workflow operations).IsNext position
        ((after workflow operations).jumpTo position).cursor) ∧
      (after workflow operations).IsNext ((after workflow operations).cursor + 1)
        (after workflow operations).advance.cursor) ∧
    ∃ places visits : List Nat,
      Arranges workflow.steps workflow.orderedSteps places ∧
      (∀ position place, places[position]? = some place →
        ((ofWorkflow workflow).MayRestAt position ↔ MayRunAt workflow.steps place)) ∧
      visits.Pairwise (Precedes workflow.steps) ∧
      (∀ place, place ∈ visits ↔ MayRunAt workflow.steps place) ∧
      ∀ count : Nat,
        places[(advance^[count] (ofWorkflow workflow)).cursor]? = visits[count]? ∧
        (advance^[count] (ofWorkflow workflow)).current? =
          visits[count]?.bind (workflow.steps[·]?) ∧
        ((advance^[count] (ofWorkflow workflow)).isFinished = true ↔ visits.length ≤ count) := by
  refine ⟨fun operations => ⟨fun step current => ?_, isNext_jumpTo _, isNext_settleAt _ _⟩, ?_⟩
  · exact isRunnable_eq_true_iff.mp (rests_after workflow operations step current)
  · obtain ⟨places, arranges⟩ := exists_arranges workflow.steps
    have sorted : Arranges workflow.steps (ofWorkflow workflow).steps places := arranges
    obtain ⟨visits, increasing, member_iff, visited⟩ := exists_visits sorted
    refine ⟨places, visits, arranges, fun _ _ here => mayRestAt_iff_mayRunAt arranges here,
      increasing, member_iff, fun count => ?_⟩
    have begins : (ofWorkflow workflow).IsNext 0 (ofWorkflow workflow).cursor :=
      isNext_settleAt _ 0
    have steps := steps_iterate_advance (ofWorkflow workflow) count
    have length : places.length = (advance^[count] (ofWorkflow workflow)).steps.length := by
      rw [steps, arranges.length_eq, ← arranges.length_sorted]
      rfl
    have there : places[(advance^[count] (ofWorkflow workflow)).cursor]? = visits[count]? := by
      rw [visited, getElem?_stopsFrom begins]
      split
      next finished =>
        rw [Option.bind_none, List.getElem?_eq_none_iff, length]
        exact of_decide_eq_true finished
      next => rfl
    refine ⟨there, ?_, ?_⟩
    · rw [← there, ← arranges.getElem?_sorted, current?, steps]
      rfl
    · rw [← List.getElem?_eq_none_iff, ← there, List.getElem?_eq_none_iff, length]
      exact decide_eq_true_iff

end Schedule
end WorkflowEngine
