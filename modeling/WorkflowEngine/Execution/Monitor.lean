import WorkflowEngine.Action.Basic
import WorkflowEngine.Decimal.Fixed

/-!
# Resource monitors

What an execution uses of the machine, sampled at most once in an interval.
The first sample only sets the start.
-/

namespace WorkflowEngine

/-- The use of the machine at a time. -/
structure Reading where
  time : Span
  usage : ResourceUsage
deriving Inhabited

/-- The samples taken so far. -/
structure Monitor where
  interval : Span := .ofMillis 250
  /-- When the last sample was taken. -/
  last : Option Span := none
  samples : List ResourceUsage := []
deriving Inhabited

namespace Monitor

/-- The latest sample. -/
def latest? (monitor : Monitor) : Option ResourceUsage := monitor.samples.getLast?

/-- Takes a sample, unless the last one is too recent, and gives the latest. -/
def sample (monitor : Monitor) (reading : Reading) : Option ResourceUsage × Monitor :=
  match monitor.last with
  | none => (none, { monitor with last := some reading.time })
  | some last =>
    if reading.time.nanos - last.nanos < monitor.interval.nanos then (monitor.latest?, monitor)
    else
      (some reading.usage,
       { monitor with
         last := some reading.time
         samples := monitor.samples ++ [reading.usage] })

/-- The largest amount of memory among the samples. -/
def peakMemoryMb (monitor : Monitor) : Nat :=
  monitor.samples.foldl (fun peak usage => max peak usage.memoryMb) 0

/-- The mean share of the processor among the samples. -/
def averageCpu (monitor : Monitor) : Float32 :=
  if monitor.samples.isEmpty then 0.0
  else
    monitor.samples.foldl (fun total usage => total + usage.cpuUsage) 0.0 /
      Float32.ofNat monitor.samples.length

/-- A summary for people. -/
def summary (monitor : Monitor) : String :=
  if monitor.samples.isEmpty then "No resource data collected"
  else
    "Resource Usage:\n  Average CPU: " ++ Decimal.fixedFloat32 1 monitor.averageCpu ++
      "%\n  Peak Memory: " ++ toString monitor.peakMemoryMb ++ " MB\n  Samples: " ++
      toString monitor.samples.length

end Monitor
end WorkflowEngine
