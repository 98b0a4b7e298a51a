import Std.Time.DateTime.Timestamp
import WorkflowEngine.CommandLine.Run
import WorkflowEngine.Engine.Identifier

/-!
# The program

Runs the command line on the machine: reads the files that are named, lets the
execution wait in real time, keeps its records on disk as they change, and
prints the report.
-/

namespace WorkflowEngine
namespace CommandLine

/-- Prints what is to be printed. -/
def Printed.print (printed : Printed) : IO Unit := do
  for line in printed.output do IO.println line
  for line in printed.errors do IO.eprintln line

/-- The files among some paths that can be read. -/
def readFiles (paths : List String) : IO Files := do
  let mut files : Files := []
  for path in paths do
    try
      let text ← IO.FS.readFile path
      files := files ++ [(FilePath.ofText path, text)]
    catch _ => pure ()
  return files

/-- Writes the files that have changed. -/
def writeFiles (before after : Files) : IO Unit := do
  for (path, text) in after do
    if before.lookup path != some text then
      if path.length > 1 then IO.FS.createDirAll (FilePath.text path.dropLast)
      let temporary := (path.extended ".tmp").text
      IO.FS.writeFile temporary text
      IO.FS.rename temporary path.text

/-- Runs an execution in real time, given the files that were written last and
when it began. -/
partial def follow (began : Nat) (files : Files) (program : Program Execution.Next)
    (world : World Unit) : IO (Option (Except EngineError ExecutionRecord × World Unit)) := do
  let (stop, world) := Session.proceed program world
  let after := filesAfter files world
  writeFiles files after
  match stop with
  | .done (.turn execution) => follow began after execution.turn world
  | .done (.ended record) => return some (.ok record, world)
  | .done (.refused error) => return some (.error error, world)
  | .waiting millis next =>
    IO.sleep (UInt32.ofNat (min millis (Nat.pow 2 32 - 1)))
    let millis ← IO.monoMsNow
    follow began after next { world with millis := millis - began }
  | .listening .. | .broken => return none

/-- Executes a workflow and reports on it. -/
def execute (prepared : Prepared) (files : Files) : IO UInt32 := do
  Printed.print { output := preamble prepared.options }
  let bytes ← IO.getRandomBytes Identifier.byteCount.toUSize
  let origin ← Std.Time.Timestamp.now
  let world := prepared.world files origin.toMillisecondsSinceUnixEpoch.val.toNat
  let program := prepared.program world (Identifier.ofBytes bytes.toList)
  try
    match ← follow (← IO.monoMsNow) files program world with
    | some (result, world) =>
      (report world result).print
      return UInt32.ofNat (exitCode result)
    | none =>
      (Printed.giveUp {} "execution broke down").print
      return 1
  catch error =>
    (Printed.giveUp {} (EngineError.store (.unreachable (toString error))).message).print
    return 1

end CommandLine
end WorkflowEngine

open WorkflowEngine WorkflowEngine.CommandLine in
/-- Runs the program with its arguments. -/
def main (arguments : List String) : IO UInt32 := do
  match parse arguments with
  | .error error =>
    (refusal error).print
    return 1
  | .ok .help =>
    Printed.print { output := usageLines }
    return 0
  | .ok .version =>
    Printed.print { output := versionLines }
    return 0
  | .ok (.run options) =>
    let files ← readFiles
      ([options.workflowPath] ++ options.inputPath.toList ++ options.settingsPath.toList)
    match prepare files options with
    | .error printed =>
      printed.print
      return 1
    | .ok prepared => execute prepared files
