import WorkflowEngine.Decimal.Fixed
import WorkflowEngine.Record.Basic

/-!
# Reports

What the command line prints: its usage, its banner, and the summary of an
execution, line by line.
-/

namespace WorkflowEngine
namespace CommandLine

/-- The name of the program. -/
def programName : String := "FlowRunner"

/-- The version of the program. -/
def programVersion : String := "0.1.0"

/-- The version line. -/
def versionLines : List String := [programName ++ " " ++ programVersion]

/-- The banner. -/
def bannerLines : List String :=
  ["", programName ++ " v" ++ programVersion, "Workflow Execution Engine", ""]

/-- The usage. -/
def usageLines : List String :=
  ["Usage: flowrunner [OPTIONS] <WORKFLOW_FILE>",
   "",
   "Arguments:",
   "  <WORKFLOW_FILE>     Path to workflow YAML or JSON file",
   "",
   "Options:",
   "  --input PATH        JSON object passed as execution input",
   "  --dry-run           Simulate steps with external side effects",
   "  --timeout SECS      Execution timeout, overriding the workflow's",
   "  --config PATH       Engine configuration YAML",
   "  --state-dir PATH    Persist execution records under this directory",
   "  --tenant ID         Tenant the execution belongs to",
   "  --user ID           Acting user",
   "  --verbose           Enable debug logging",
   "  --help              Show this help message",
   "  --version           Show version information",
   "",
   "Examples:",
   "  flowrunner reorder.yaml",
   "  flowrunner reorder.yaml --dry-run --input order.json"]

/-- A number of milliseconds in seconds. -/
def secondsText (millis : Nat) : String :=
  Decimal.fixedFloat 2 (Float.ofNat millis / 1000.0) ++ "s"

/-- The line for an error. -/
def errorLines (record : ExecutionRecord) : List String :=
  match record.errorMessage with
  | some message =>
    ["  Error:      " ++ message ++ " (" ++ record.errorCode.getD "-" ++ ")"]
  | none => []

/-- The line for an attempt. -/
def stepLine (step : StepRecord) : String :=
  let mark := if step.status = .completed then "✓" else "✗"
  let retry :=
    if 0 < step.retryCount then " (retry " ++ toString step.retryCount ++ ")" else ""
  "  " ++ mark ++ " " ++ step.stepId ++ " [" ++ step.stepType.name ++ "] " ++
    toString step.durationMs ++ "ms" ++ retry

/-- The summary of an execution. -/
def summaryLines (record : ExecutionRecord) (steps : List StepRecord) : List String :=
  ["",
   "Execution Summary",
   "  Execution:  " ++ record.executionId,
   "  Status:     " ++ record.status.name,
   "  Steps:      " ++ toString record.completedSteps ++ " completed, " ++
     toString record.failedSteps ++ " failed, " ++ toString record.skippedSteps ++
     " skipped of " ++ toString record.totalSteps] ++
  (record.durationMs.map (fun millis => "  Duration:   " ++ secondsText millis)).toList ++
  errorLines record ++
  (if steps.isEmpty then [] else "" :: steps.map stepLine) ++
  [""]

end CommandLine
end WorkflowEngine
