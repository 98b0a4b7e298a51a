import WorkflowEngine.Action.Builtin
import WorkflowEngine.CommandLine.Options
import WorkflowEngine.CommandLine.Report
import WorkflowEngine.Engine.Session

/-!
# Running a workflow from the command line

The command line loads its settings, a workflow and an input, executes the
workflow once with the built-in handlers, and reports on it.
-/

namespace WorkflowEngine
namespace CommandLine

/-- What has been printed, line by line. -/
structure Printed where
  output : List String := []
  errors : List String := []
deriving Repr, DecidableEq, Inhabited

/-- Prints what another part of the program has to say. -/
def Printed.append (printed other : Printed) : Printed where
  output := printed.output ++ other.output
  errors := printed.errors ++ other.errors

/-- Prints the message with which the program gives up. -/
def Printed.giveUp (printed : Printed) (message : String) : Printed :=
  { printed with errors := printed.errors ++ ["", "Error: " ++ message] }

/-- The lines for arguments that are refused. -/
def refusal (error : ArgumentError) : Printed :=
  ({ output := usageLines
     errors := ["Error: " ++ error.message, ""] : Printed }).giveUp error.message

/-- Everything that is needed to execute a workflow. -/
structure Prepared where
  settings : Settings
  workflow : Workflow
  input : Object
  options : Options
deriving Inhabited

/-- Loads the settings. -/
def loadSettings (files : Files) : Option String → Except String Settings
  | none => .ok {}
  | some path =>
    match files.findText path with
    | .file text =>
      match Settings.ofText? text with
      | some settings => .ok settings
      | none => .error (EngineError.parse "default_: invalid value").message
    | _ => .error (EngineError.unreadable path).message

/-- Loads the workflow. -/
def loadWorkflow (files : Files) (path : String) : Except String Workflow :=
  (Workflow.loadFile path (files.findText path)).mapError fun error =>
    "Could not load workflow from '" ++ path ++ "': " ++ error.message

/-- Loads the input, which is empty when no file is named. -/
def loadInput (files : Files) : Option String → Except String Object
  | none => .ok []
  | some path =>
    match files.findText path with
    | .file text =>
      match (Json.readTree? text).bind Tree.object? with
      | some input => .ok input
      | none => .error ("Input '" ++ path ++ "' is not a JSON object: invalid document")
    | _ => .error ("Could not read input '" ++ path ++ "': no such file")

/-- The lines in front of a report. -/
def preamble (options : Options) : List String :=
  if options.dryRun then bannerLines ++ [""] else bannerLines

/-- Loads everything, or gives what is printed on the way to a failure. -/
def prepare (files : Files) (options : Options) : Except Printed Prepared :=
  match loadSettings files options.settingsPath with
  | .error message => .error (Printed.giveUp { output := bannerLines } message)
  | .ok settings =>
    let printed : Printed := { output := preamble options }
    match loadWorkflow files options.workflowPath, loadInput files options.inputPath with
    | .error message, _ | .ok _, .error message => .error (printed.giveUp message)
    | .ok workflow, .ok input => .ok { settings, workflow, input, options }

namespace Prepared

/-- The engine for an execution that starts at a time. -/
def world (prepared : Prepared) (files : Files) (origin : Nat) : World Unit where
  settings := prepared.settings
  actions := Builtin.actions
  state := ()
  workflows := [(prepared.workflow.id, prepared.workflow)]
  store :=
    match prepared.options.stateDirectory with
    | some directory => .files { root := .ofText directory, files }
    | none => .empty
  origin := origin
  budget := .running

/-- The call for an execution. -/
def call (prepared : Prepared) (executionId : String) : Call where
  executionId := executionId
  input := prepared.input
  options :=
    { dryRun := prepared.options.dryRun
      debug := prepared.options.verbose
      tenantId := prepared.options.tenantId
      userId := prepared.options.userId
      timeout := prepared.options.timeoutSeconds.map Span.ofSeconds }

/-- The program of the execution. -/
def program (prepared : Prepared) (world : World Unit) (executionId : String) :
    Program Execution.Next :=
  Execution.startKnown world.environment prepared.workflow.id (prepared.call executionId)

end Prepared

/-- What is printed about the result of an execution. -/
def report (world : World Unit) (result : Except EngineError ExecutionRecord) : Printed :=
  match result with
  | .error error => Printed.giveUp {} error.message
  | .ok record =>
    match world.steps record.key with
    | .error error => Printed.giveUp {} error.message
    | .ok steps => { output := summaryLines record steps }

/-- The exit code for the result of an execution. -/
def exitCode : Except EngineError ExecutionRecord → Nat
  | .ok record => if record.status = .completed then 0 else 1
  | .error _ => 1

/-- How a run of the program ends. -/
structure Ended where
  printed : Printed
  exitCode : Nat
  /-- The files that are there at the end. -/
  files : Files
deriving Inhabited

/-- The files after an execution. -/
def filesAfter (files : Files) (world : World Unit) : Files :=
  match world.store with
  | .memory _ => files
  | .files store => store.files

/-- Runs the program over some files, without any real waiting.  There is no
end when a handler breaks down. -/
def run (arguments : List String) (files : Files) (executionId : String) (origin : Nat) :
    Option Ended :=
  match parse arguments with
  | .error error => some { printed := refusal error, exitCode := 1, files }
  | .ok .help => some { printed := { output := usageLines }, exitCode := 0, files }
  | .ok .version => some { printed := { output := versionLines }, exitCode := 0, files }
  | .ok (.run options) =>
    match prepare files options with
    | .error printed => some { printed, exitCode := 1, files }
    | .ok prepared =>
      let session : Session Unit := { world := prepared.world files origin }
      match session.execute (prepared.program session.world executionId) with
      | none => none
      | some (result, session) =>
        some
          { printed := Printed.append { output := preamble options } (report session.world result)
            exitCode := exitCode result
            files := filesAfter files session.world }

end CommandLine
end WorkflowEngine
