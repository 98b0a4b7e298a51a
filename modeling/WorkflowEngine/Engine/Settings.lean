import WorkflowEngine.Time.Span
import WorkflowEngine.Workflow.Encoding
import WorkflowEngine.Yaml.Document

/-!
# Engine settings

What holds for all executions of an engine unless a workflow or a step says
otherwise.
-/

namespace WorkflowEngine

/-- The settings of an engine. -/
structure Settings where
  timeoutSeconds : Nat := 3600
  maxRetries : Nat := 3
  retryDelayMs : Nat := 5000
  /-- Executions of one workflow at a time; when absent the machine decides. -/
  maxConcurrent : Option Nat := none
  semantics : Semantics := .precedence
deriving Repr, Inhabited

namespace Settings

/-- The names of the ways to combine conditions. -/
def semanticsNames : List (String × Semantics) :=
  [("left_fold", .leftFold), ("precedence", .precedence)]

/-- Reads a way to combine conditions. -/
def readSemantics? : Tree → Option Semantics := Tree.choiceOf? semanticsNames

/-- Reads settings; everything that is left out has its default. -/
def read? (tree : Tree) : Option Settings := do
  let fields ← tree.fields?
    ["default_timeout_secs", "default_max_retries", "default_retry_delay_ms",
     "default_max_concurrent_executions", "condition_semantics"]
  let timeoutSeconds ← fields.defaulted "default_timeout_secs" 3600 Tree.nat64?
  let maxRetries ← fields.defaulted "default_max_retries" 3 Tree.nat32?
  let retryDelayMs ← fields.defaulted "default_retry_delay_ms" 5000 Tree.nat64?
  let maxConcurrent ← fields.defaulted "default_max_concurrent_executions" none
    (fun tree => tree.nat64?.map some)
  let semantics ← fields.defaulted "condition_semantics" .precedence
    readSemantics?
  some { timeoutSeconds, maxRetries, retryDelayMs, maxConcurrent, semantics }

/-- Reads settings from a text; a blank text leaves all defaults. -/
def ofText? (text : String) : Option Settings :=
  if Text.isBlankText text then some {} else (Yaml.readTree? text).bind read?

/-- The value of settings; a number of executions that the machine decides is
left out. -/
def toJson (settings : Settings) : Json :=
  .ofEntries
    ([("default_timeout_secs", .ofNat settings.timeoutSeconds),
      ("default_max_retries", .ofNat settings.maxRetries),
      ("default_retry_delay_ms", .ofNat settings.retryDelayMs),
      ("condition_semantics", .ofChoice semanticsNames settings.semantics)] ++
      optionalField "default_max_concurrent_executions" .ofNat settings.maxConcurrent)

/-- The time an execution may take. -/
def timeout (settings : Settings) : Span := .ofSeconds settings.timeoutSeconds

/-- The wait before a retry. -/
def retryDelay (settings : Settings) : Span := .ofMillis settings.retryDelayMs

end Settings
end WorkflowEngine
