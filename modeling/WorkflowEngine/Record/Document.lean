import WorkflowEngine.Decimal.Reading
import WorkflowEngine.Json.Printer
import WorkflowEngine.Json.Reader
import WorkflowEngine.Record.Basic

/-!
# Execution documents

The written form of records.  As values, records are objects like any other;
as documents, an execution and its trail stand in one indented text with the
fields in a fixed order.
-/

namespace WorkflowEngine

/-- A point in time as a value. -/
def Timestamp.toJson (time : Timestamp) : Json := .text time.text

/-- Reads a point in time. -/
def Timestamp.ofTree? (tree : Tree) : Option Timestamp := tree.text?.bind Timestamp.read?

/-- Reads a status. -/
def ExecutionStatus.read? : Tree → Option ExecutionStatus :=
  Tree.choiceOf? ExecutionStatus.names

namespace ExecutionRecord

/-- Reads a record. -/
def read? (tree : Tree) : Option ExecutionRecord := do
  let fields ← tree.fields?
    ["tenantId", "executionId", "workflowId", "status", "currentStepId", "totalSteps",
     "completedSteps", "failedSteps", "skippedSteps", "progressPercentage", "startedAt",
     "updatedAt", "completedAt", "durationMs", "errorMessage", "errorCode", "failedStepId",
     "output", "metrics"]
  let tenantId ← fields.required "tenantId" Tree.text?
  let executionId ← fields.required "executionId" Tree.text?
  let workflowId ← fields.required "workflowId" Tree.text?
  let status ← fields.required "status" ExecutionStatus.read?
  let currentStep ← fields.optional "currentStepId" Tree.text?
  let totalSteps ← fields.required "totalSteps" Tree.nat64?
  let completedSteps ← fields.required "completedSteps" Tree.nat64?
  let failedSteps ← fields.required "failedSteps" Tree.nat64?
  let skippedSteps ← fields.required "skippedSteps" Tree.nat64?
  let progress ← fields.required "progressPercentage" Tree.float?
  let startedAt ← fields.required "startedAt" Timestamp.ofTree?
  let updatedAt ← fields.required "updatedAt" Timestamp.ofTree?
  let completedAt ← fields.optional "completedAt" Timestamp.ofTree?
  let durationMs ← fields.optional "durationMs" Tree.nat64?
  let errorMessage ← fields.optional "errorMessage" Tree.text?
  let errorCode ← fields.optional "errorCode" Tree.text?
  let failedStep ← fields.optional "failedStepId" Tree.text?
  let output ← fields.defaulted "output" [] Tree.object?
  let metrics ← fields.defaulted "metrics" [] Tree.object?
  some
    { tenantId, executionId, workflowId, status, currentStep, totalSteps, completedSteps,
      failedSteps, skippedSteps, progress, startedAt, updatedAt, completedAt, durationMs,
      errorMessage, errorCode, failedStep, output, metrics }

/-- The fields of a record in their written order. -/
def entries (record : ExecutionRecord) : List (String × Json) :=
  [("tenantId", .text record.tenantId),
   ("executionId", .text record.executionId),
   ("workflowId", .text record.workflowId),
   ("status", .ofChoice ExecutionStatus.names record.status)] ++
  optionalField "currentStepId" .text record.currentStep ++
  [("totalSteps", .ofNat record.totalSteps),
   ("completedSteps", .ofNat record.completedSteps),
   ("failedSteps", .ofNat record.failedSteps),
   ("skippedSteps", .ofNat record.skippedSteps),
   ("progressPercentage", .ofFloat record.progress),
   ("startedAt", record.startedAt.toJson),
   ("updatedAt", record.updatedAt.toJson)] ++
  optionalField "completedAt" Timestamp.toJson record.completedAt ++
  optionalField "durationMs" .ofNat record.durationMs ++
  optionalField "errorMessage" .text record.errorMessage ++
  optionalField "errorCode" .text record.errorCode ++
  optionalField "failedStepId" .text record.failedStep ++
  [("output", .object record.output), ("metrics", .object record.metrics)]

/-- The value of a record. -/
def toJson (record : ExecutionRecord) : Json := .ofEntries record.entries

end ExecutionRecord

/-- The fewest digits that read back to a single-precision number, as a
double-precision number. -/
def shortened (value : Float32) : Float :=
  let magnitude := (Decimal.Binary.ofFloat32 value).shortest .toEven
  let float := Decimal.toFloat magnitude.digits magnitude.exponent
  if value.toBits >>> 31 = 1 then -float else float

namespace StepRecord

/-- Reads a record. -/
def read? (tree : Tree) : Option StepRecord := do
  let fields ← tree.fields?
    ["tenantId", "executionId", "stepId", "stepType", "status", "retryCount", "startedAt",
     "completedAt", "durationMs", "input", "output", "errorMessage", "raised", "resourceUsage"]
  let tenantId ← fields.required "tenantId" Tree.text?
  let executionId ← fields.required "executionId" Tree.text?
  let stepId ← fields.required "stepId" Tree.text?
  let stepType ← fields.required "stepType" Tree.text?
  let status ← fields.required "status" (Tree.choiceOf? StepStatus.names)
  let retryCount ← fields.required "retryCount" Tree.nat32?
  let startedAt ← fields.required "startedAt" Timestamp.ofTree?
  let completedAt ← fields.required "completedAt" Timestamp.ofTree?
  let durationMs ← fields.required "durationMs" Tree.nat64?
  let input ← fields.defaulted "input" [] Tree.object?
  let output ← fields.defaulted "output" [] Tree.object?
  let errorMessage ← fields.optional "errorMessage" Tree.text?
  let raised ← fields.defaulted "raised" false Tree.bool?
  let resourceUsage ← fields.optional "resourceUsage" ResourceUsage.read?
  some
    { tenantId, executionId, stepId, stepType := StepType.ofName stepType, status, retryCount,
      startedAt, completedAt, durationMs, input, output, errorMessage, raised, resourceUsage }

/-- The fields of a record in their written order, with a given form for what
the attempt used. -/
def entriesWith (usage : ResourceUsage → Json) (record : StepRecord) : List (String × Json) :=
  [("tenantId", .text record.tenantId),
   ("executionId", .text record.executionId),
   ("stepId", .text record.stepId),
   ("stepType", .text record.stepType.name),
   ("status", .ofChoice StepStatus.names record.status),
   ("retryCount", .ofNat record.retryCount),
   ("startedAt", record.startedAt.toJson),
   ("completedAt", record.completedAt.toJson),
   ("durationMs", .ofNat record.durationMs),
   ("input", .object record.input),
   ("output", .object record.output)] ++
  optionalField "errorMessage" .text record.errorMessage ++
  [("raised", .bool record.raised)] ++
  optionalField "resourceUsage" usage record.resourceUsage

/-- The value of a record. -/
def toJson (record : StepRecord) : Json := .ofEntries (record.entriesWith ResourceUsage.toJson)

/-- What an attempt used, in a document. -/
def usageEntries (usage : ResourceUsage) : Json :=
  .object [("cpuUsage", .ofFloat (shortened usage.cpuUsage)), ("memoryMb", .ofNat usage.memoryMb)]

/-- The fields of a record in a document. -/
def entries (record : StepRecord) : List (String × Json) := record.entriesWith usageEntries

end StepRecord

/-- An execution together with its attempts in the order of their end. -/
structure Document where
  execution : ExecutionRecord
  steps : List StepRecord := []
deriving Inhabited

namespace Document

/-- Reads a document. -/
def read? (tree : Tree) : Option Document := do
  let fields ← tree.fields? ["execution", "steps"]
  let execution ← fields.required "execution" ExecutionRecord.read?
  let steps ← fields.defaulted "steps" [] (Tree.listOf? StepRecord.read?)
  some { execution, steps }

/-- Reads a document from its text. -/
def ofText? (text : String) : Option Document := (Json.readTree? text).bind read?

/-- The text of a document. -/
def text (document : Document) : String :=
  String.ofList (Json.layOut 0 (.object
    [("execution", .object document.execution.entries),
     ("steps", .array (document.steps.map (fun step => .object step.entries)))]))

end Document
end WorkflowEngine
