import WorkflowEngine.Engine.Error
import WorkflowEngine.Files
import WorkflowEngine.Workflow.Encoding
import WorkflowEngine.Yaml.Document
import WorkflowEngine.Yaml.Printer

/-!
# Workflow texts

A workflow is written down in YAML, of which JSON is a part for this purpose.
Loading a workflow reads its text and accepts it only if it is valid.
-/

namespace WorkflowEngine
namespace Workflow

/-- Reads a workflow from its text. -/
def ofText? (text : String) : Option Workflow := (Yaml.readTree? text).bind Workflow.read?

/-- The text of a workflow. -/
def toText (workflow : Workflow) : String := Yaml.document workflow.toJson

/-- A workflow, if it is valid. -/
def validated (workflow : Workflow) : Except EngineError Workflow :=
  if workflow.isValid then .ok workflow else .error (.configuration workflow.problems)

/-- Loads a workflow from its text. -/
def load (text : String) : Except EngineError Workflow :=
  match ofText? text with
  | some workflow => workflow.validated
  | none =>
    .error (.parse "Failed to parse workflow definition: invalid document. Check the file format.")

/-- Loads a workflow from what was found at a path. -/
def loadFile (path : String) : Found → Except EngineError Workflow
  | .file text => load text
  | _ =>
    .error (.parse ("Failed to read workflow file '" ++ path ++
      "': no such file. Check that the file exists and is readable."))

end Workflow
end WorkflowEngine
