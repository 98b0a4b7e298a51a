import WorkflowEngine.Engine.Settings
import WorkflowEngine.Execution.Program

/-!
# Dispatch

A step goes to the handler for its type.  Without a handler the attempt fails,
and a dry run only pretends to call a handler that has effects of its own.
Attempts and waits may be bounded by a number of milliseconds, which they use
up in turn.
-/

namespace WorkflowEngine

/-- What an execution knows of its engine. -/
structure Environment where
  settings : Settings := {}
  /-- The number of processors of the machine. -/
  processors : Nat := 1
  /-- The step types that have a handler, and whether it avoids effects in a
  dry run by itself. -/
  handled : List (StepType × Bool) := []
deriving Inhabited

/-- The bound of an attempt; without one it may take as long as it likes. -/
abbrev Limit := Option Nat

/-- What becomes of a step before any handler is called. -/
inductive Dispatch where
  /-- The outcome is known. -/
  | settled (outcome : Outcome)
  /-- A handler is to be called. -/
  | call (invocation : Invocation)
deriving Inhabited

/-- Decides what to do with a step. -/
def Dispatch.ofStep
    (environment : Environment)
    (context : Context)
    (step : Step)
    (input : Object) : Dispatch :=
  match environment.handled.lookup step.type with
  | none => .settled (.unavailable step.type)
  | some avoidsEffects =>
    if context.dryRun && !avoidsEffects then .settled (.simulated step input)
    else .call { step, input, context }

/-- Waits within a limit, and gives what is left of it; nothing when the limit
is reached first. -/
def waitWithin (limit : Limit) (span : Span) : Program (Option Limit) :=
  match limit with
  | none => do
    Program.request (.wait span.ticks)
    return some none
  | some left =>
    if span.ticks ≤ left then do
      Program.request (.wait span.ticks)
      return some (some (left - span.ticks))
    else do
      Program.request (.wait left)
      return none

/-- Makes one attempt at a step within a limit; there is no outcome when the
limit is reached first. -/
def attemptWithin
    (environment : Environment)
    (context : Context)
    (step : Step)
    (input : Object)
    (limit : Limit) : Program (Option (Outcome × Limit)) :=
  match Dispatch.ofStep environment context step input with
  | .settled outcome => return some (outcome, limit)
  | .call invocation => do
    let reply ← Program.request (.invoke invocation)
    match ← waitWithin limit reply.delay with
    | some left => return some (reply.outcome, left)
    | none => return none

end WorkflowEngine
