import WorkflowEngine.Record.Document
import WorkflowEngine.Store.Basic

/-!
# Stores in memory

Documents under their keys, at most one for each: a document is only added under a key
that is free, and a change leaves all keys as they are.
-/

namespace WorkflowEngine

/-- Documents by key. -/
structure MemoryStore where
  documents : List (StoreKey × Document)
  distinct : (documents.map Prod.fst).Nodup

namespace MemoryStore

/-- A store that holds nothing. -/
def empty : MemoryStore where
  documents := []
  distinct := .nil

instance : Inhabited MemoryStore where
  default := empty

/-- The number of documents. -/
def length (store : MemoryStore) : Nat := store.documents.length

/-- The document of an execution. -/
def document? (store : MemoryStore) (key : StoreKey) : Option Document :=
  store.documents.lookup key

theorem notMem_keys
    {store : MemoryStore}
    {key : StoreKey}
    (free : store.document? key = none) :
    key ∉ store.documents.map Prod.fst := by
  intro member
  obtain ⟨entry, held, same⟩ := List.mem_map.mp member
  have different := List.lookup_eq_none_iff.mp free entry held
  simp [same] at different

/-- Adds a document under a key that is free. -/
def add (store : MemoryStore) (key : StoreKey) (document : Document)
    (free : store.document? key = none) : MemoryStore where
  documents := store.documents ++ [(key, document)]
  distinct := by
    rw [List.map_append, List.map_singleton]
    apply List.nodup_append.mpr ⟨store.distinct, by simp, ?_⟩
    intro other member added here same
    rw [List.mem_singleton] at here
    subst here same
    exact notMem_keys free member

theorem map_fst_revise (entries : List (StoreKey × Document)) (key : StoreKey)
    (change : Document → Document) :
    (entries.map fun entry =>
      if entry.1 = key then (entry.1, change entry.2) else entry).map Prod.fst =
      entries.map Prod.fst := by
  rw [List.map_map]
  apply List.map_congr_left
  intro entry _
  rw [Function.comp_apply]
  split <;> rfl

/-- Changes the document under a key. -/
def revise (store : MemoryStore) (key : StoreKey) (change : Document → Document) :
    MemoryStore where
  documents := store.documents.map fun entry =>
    if entry.1 = key then (entry.1, change entry.2) else entry
  distinct := by
    rw [map_fst_revise]
    exact store.distinct

/-- Changes the document under a key, if there is one. -/
def modify (store : MemoryStore) (key : StoreKey) (change : Document → Document) :
    Except StoreError MemoryStore :=
  if (store.document? key).isSome then .ok (store.revise key change)
  else .error (.notFound key.tenantId key.executionId)

/-- Stores a new execution. -/
def create (store : MemoryStore) (record : ExecutionRecord) : Except StoreError MemoryStore :=
  if free : store.document? record.key = none then
    .ok (store.add record.key { execution := record } free)
  else .error (.alreadyExists record.tenantId record.executionId)

/-- Replaces the record of an execution. -/
def update (store : MemoryStore) (record : ExecutionRecord) : Except StoreError MemoryStore :=
  store.modify record.key (fun document => { document with execution := record })

/-- Adds an attempt to the trail of its execution. -/
def append (store : MemoryStore) (record : StepRecord) : Except StoreError MemoryStore :=
  store.modify record.key (fun document => { document with steps := document.steps ++ [record] })

/-- The record of an execution. -/
def execution? (store : MemoryStore) (key : StoreKey) : Option ExecutionRecord :=
  (store.document? key).map Document.execution

/-- The trail of an execution. -/
def steps (store : MemoryStore) (key : StoreKey) : List StepRecord :=
  ((store.document? key).map Document.steps).getD []

end MemoryStore
end WorkflowEngine
