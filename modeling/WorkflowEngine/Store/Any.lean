import WorkflowEngine.Store.Files
import WorkflowEngine.Store.Memory

/-!
# Stores of either kind

What an engine works with: a store in memory or one in files, with the same
operations.
-/

namespace WorkflowEngine

/-- A store. -/
inductive Store where
  | memory (documents : MemoryStore)
  | files (store : FileStore)
deriving Inhabited

namespace Store

/-- A store in memory that holds nothing. -/
def empty : Store := .memory .empty

/-- Stores a new execution. -/
def create (record : ExecutionRecord) : Store → Except StoreError Store
  | .memory documents => (documents.create record).map .memory
  | .files store => (store.create record).map .files

/-- Replaces the record of an execution. -/
def update (record : ExecutionRecord) : Store → Except StoreError Store
  | .memory documents => (documents.update record).map .memory
  | .files store => (store.update record).map .files

/-- Adds an attempt to the trail of its execution. -/
def append (record : StepRecord) : Store → Except StoreError Store
  | .memory documents => (documents.append record).map .memory
  | .files store => (store.append record).map .files

/-- The record of an execution. -/
def execution? (key : StoreKey) : Store → Except StoreError (Option ExecutionRecord)
  | .memory documents => .ok (documents.execution? key)
  | .files store => store.execution? key

/-- The trail of an execution. -/
def steps (key : StoreKey) : Store → Except StoreError (List StepRecord)
  | .memory documents => .ok (documents.steps key)
  | .files store => store.steps key

end Store
end WorkflowEngine
