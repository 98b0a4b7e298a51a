import WorkflowEngine.Files
import WorkflowEngine.Record.Document
import WorkflowEngine.Store.Basic

/-!
# Stores in files

Every execution has a file of its own, which holds its document and lies in the
directory of its tenant.  Each change reads the document, changes it, and
writes it back.
-/

namespace WorkflowEngine

/-- A directory in which documents are kept. -/
structure FileStore where
  root : FilePath := []
  files : Files := []
deriving Inhabited

namespace FileStore

/-- Whether a text can be a single name on a path. -/
def isKey (text : String) : Bool :=
  text != "" && text != "." && text != ".." &&
    !text.toList.any (fun char => char = '/' || char = '\\')

/-- A part of a key, when it can be a name. -/
def checked (text : String) : Except StoreError String :=
  if isKey text then .ok text else .error (.invalidKey text)

/-- The path of a document below the directory of the store. -/
def relativePath (key : StoreKey) : Except StoreError FilePath := do
  let tenant ← checked key.tenantId
  let execution ← checked key.executionId
  .ok [tenant, execution ++ ".json"]

/-- The path of a document. -/
def path (store : FileStore) (key : StoreKey) : Except StoreError FilePath :=
  (relativePath key).map (store.root ++ ·)

/-- The document at a path, if there is one. -/
def read (store : FileStore) (path : FilePath) : Except StoreError (Option Document) :=
  match store.files.find path with
  | .file text =>
    match Document.ofText? text with
    | some document => .ok (some document)
    | none => .error (.malformed "invalid document")
  | .missing => .ok none
  | .directory => .error (.unreachable "is a directory")
  | .unreachable => .error (.unreachable "path cannot be followed")

/-- Puts a text at a path. -/
def writeText (store : FileStore) (path : FilePath) (text : String) : Except StoreError FileStore :=
  match store.files.write? path text with
  | some files => .ok { store with files := files }
  | none => .error (.unreachable "file cannot be written")

/-- Changes the document under a key, if there is one. -/
def modify (store : FileStore) (key : StoreKey) (change : Document → Document) :
    Except StoreError FileStore := do
  let path ← store.path key
  match ← store.read path with
  | some document => store.writeText path (change document).text
  | none => .error (.notFound key.tenantId key.executionId)

/-- Stores a new execution. -/
def create (store : FileStore) (record : ExecutionRecord) : Except StoreError FileStore := do
  let path ← store.path record.key
  match store.files.find path with
  | .missing => store.writeText path { execution := record : Document }.text
  | .unreachable => .error (.unreachable "path cannot be followed")
  | .file _ | .directory => .error (.alreadyExists record.tenantId record.executionId)

/-- Replaces the record of an execution. -/
def update (store : FileStore) (record : ExecutionRecord) : Except StoreError FileStore :=
  store.modify record.key (fun document => { document with execution := record })

/-- Adds an attempt to the trail of its execution. -/
def append (store : FileStore) (record : StepRecord) : Except StoreError FileStore :=
  store.modify record.key (fun document => { document with steps := document.steps ++ [record] })

/-- The record of an execution. -/
def execution? (store : FileStore) (key : StoreKey) :
    Except StoreError (Option ExecutionRecord) := do
  let document ← store.read (← store.path key)
  .ok (document.map Document.execution)

/-- The trail of an execution. -/
def steps (store : FileStore) (key : StoreKey) : Except StoreError (List StepRecord) := do
  let document ← store.read (← store.path key)
  .ok ((document.map Document.steps).getD [])

end FileStore
end WorkflowEngine
