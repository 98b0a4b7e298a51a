import WorkflowEngine.Workflow.Basic

/-!
# Schedules

A cursor over the steps of a workflow in the order of execution, together with
the latest outcome of every step.  The cursor rests on a step that may run on
the main line, or behind the last step: inactive steps and those that only run
inside a parallel step are passed over.
-/

namespace WorkflowEngine

/-- How a step came out. -/
inductive StepOutcome where
  | completed
  | failed
  | skipped
deriving Repr, DecidableEq, Inhabited

/-- The number of steps by outcome. -/
structure StepCounts where
  completed : Nat
  failed : Nat
  skipped : Nat
deriving Repr, DecidableEq, Inhabited

/-- The number of steps with an outcome. -/
def StepCounts.total (counts : StepCounts) : Nat :=
  counts.completed + counts.failed + counts.skipped

/-- The progress through the steps of a workflow. -/
structure Schedule where
  /-- The steps in the order of execution. -/
  steps : List Step
  cursor : Nat := 0
  /-- The latest outcomes by step. -/
  outcomes : Dict StepOutcome := []
deriving Inhabited

namespace Schedule

/-- The position of the first step with an identifier. -/
def position? (schedule : Schedule) (id : String) : Option Nat :=
  schedule.steps.findIdx? (fun step => step.id == id)

/-- The first step with an identifier. -/
def step? (schedule : Schedule) (id : String) : Option Step :=
  schedule.steps.find? (fun step => step.id == id)

/-- Whether some step lists the step at a position as a sub-step. -/
def ownsPosition (schedule : Schedule) (position : Nat) : Bool :=
  schedule.steps.any (fun step =>
    step.subSteps.any (fun id => schedule.position? id == some position))

/-- Whether a step runs only as a sub-step. -/
def isOwned (schedule : Schedule) (id : String) : Bool :=
  (schedule.position? id).any schedule.ownsPosition

/-- Whether the cursor may rest on a step at a position. -/
def isRunnable (schedule : Schedule) (position : Nat) (step : Step) : Bool :=
  step.isActive && !schedule.ownsPosition position

/-- The first position on which the cursor may rest, of steps that start at a
given position. -/
def settleFrom (schedule : Schedule) : Nat → List Step → Nat
  | position, [] => position
  | position, step :: rest =>
    if schedule.isRunnable position step then position
    else settleFrom schedule (position + 1) rest

/-- Moves the cursor to the first runnable step at or behind a position. -/
def settleAt (schedule : Schedule) (position : Nat) : Schedule :=
  { schedule with cursor := schedule.settleFrom position (schedule.steps.drop position) }

/-- The schedule of an execution that has not begun. -/
def ofWorkflow (workflow : Workflow) : Schedule :=
  { steps := workflow.orderedSteps : Schedule }.settleAt 0

/-- The step under the cursor. -/
def current? (schedule : Schedule) : Option Step := schedule.steps[schedule.cursor]?

/-- Moves on to the next runnable step. -/
def advance (schedule : Schedule) : Schedule := schedule.settleAt (schedule.cursor + 1)

/-- Moves to the first runnable step at or behind a position. -/
def jumpTo (schedule : Schedule) (position : Nat) : Schedule :=
  schedule.settleAt (min position schedule.steps.length)

/-- Moves behind the last step. -/
def stop (schedule : Schedule) : Schedule := { schedule with cursor := schedule.steps.length }

/-- Whether the cursor is behind the last step. -/
def isFinished (schedule : Schedule) : Bool := schedule.steps.length ≤ schedule.cursor

/-- Notes the outcome of a step in place of any earlier one. -/
def record (schedule : Schedule) (id : String) (outcome : StepOutcome) : Schedule :=
  { schedule with outcomes := Dict.insert id outcome schedule.outcomes }

/-- The latest outcome of a step. -/
def outcome? (schedule : Schedule) (id : String) : Option StepOutcome :=
  Dict.find? id schedule.outcomes

/-- The number of steps with a given outcome. -/
def countOf (schedule : Schedule) (outcome : StepOutcome) : Nat :=
  schedule.steps.countP (fun step => schedule.outcome? step.id == some outcome)

/-- The number of steps by outcome. -/
def counts (schedule : Schedule) : StepCounts where
  completed := schedule.countOf .completed
  failed := schedule.countOf .failed
  skipped := schedule.countOf .skipped

/-- The percentage of steps with an outcome, to two places. -/
def progress (schedule : Schedule) : Float :=
  if schedule.steps.isEmpty then 100.0
  else
    let done := Float.ofNat schedule.counts.total
    (done / Float.ofNat schedule.steps.length * 10000.0).round / 100.0

/-- Notes steps without an outcome as skipped. -/
def skipRest : List Step → Dict StepOutcome → Dict StepOutcome
  | [], outcomes => outcomes
  | step :: rest, outcomes =>
    if (Dict.find? step.id outcomes).isSome then skipRest rest outcomes
    else skipRest rest (Dict.insert step.id .skipped outcomes)

/-- Notes every step that never ran as skipped. -/
def finish (schedule : Schedule) : Schedule :=
  { schedule with outcomes := skipRest schedule.steps schedule.outcomes }

@[simp] theorem steps_settleAt (schedule : Schedule) (position : Nat) :
    (schedule.settleAt position).steps = schedule.steps := rfl

@[simp] theorem steps_advance (schedule : Schedule) : schedule.advance.steps = schedule.steps := rfl

@[simp] theorem steps_jumpTo (schedule : Schedule) (position : Nat) :
    (schedule.jumpTo position).steps = schedule.steps := rfl

@[simp] theorem steps_stop (schedule : Schedule) : schedule.stop.steps = schedule.steps := rfl

@[simp] theorem steps_record (schedule : Schedule) (id : String) (outcome : StepOutcome) :
    (schedule.record id outcome).steps = schedule.steps := rfl

@[simp] theorem steps_finish (schedule : Schedule) : schedule.finish.steps = schedule.steps := rfl

end Schedule
end WorkflowEngine
