import WorkflowEngine.Proofs.Stores

/-!
# Stores in files

A store in files does what one in memory does, as long as its files can be reached and
its documents read back as they were written.  Every document has a path of its own,
and so has the temporary file by way of which it is written.
-/

namespace WorkflowEngine

/-! ## Files -/

namespace Files

variable (files : Files) (path other : FilePath) (text : String)

/-- What stands at a path after something was put at one. -/
theorem lookup_put :
    (files.put path text).lookup other =
      if other = path then some text else files.lookup other := by
  unfold put
  split
  next known =>
    have revised := lookup_revise files path other fun _ => text
    have same : (files.map fun entry => if entry.1 = path then (path, text) else entry) =
        files.map fun entry => if entry.1 = path then (entry.1, text) else entry := by
      refine List.map_congr_left fun entry _ => ?_
      split
      next here => rw [here]
      next => rfl
    rw [same, revised]
    split
    next here =>
      obtain ⟨old, found⟩ := Option.isSome_iff_exists.mp known
      rw [here, found]
      rfl
    next => rfl
  next missing =>
    rw [lookup_concat]
    split
    next here =>
      rw [here, Option.not_isSome_iff_eq_none.mp missing]
      rfl
    next => rw [Option.or_none]

/-- A file that is there after one was written is that one, or was there before. -/
theorem mem_put
    {entry : FilePath × String}
    (member : entry ∈ files.put path text) :
    entry.1 = path ∨ entry ∈ files := by
  unfold put at member
  split at member
  next =>
    obtain ⟨old, present, rfl⟩ := List.mem_map.mp member
    split
    next => exact .inl rfl
    next => exact .inr present
  next =>
    rcases List.mem_append.mp member with present | new
    · exact .inr present
    · rw [List.mem_singleton.mp new]
      exact .inl rfl

/-- Moves a file to a path, in place of what is there. -/
def rename (source target : FilePath) : Files :=
  match files.lookup source with
  | some text => Files.put (files.filter fun entry => entry.1 ≠ source) target text
  | none => files

/-- A text may be put at a path by way of another one where nothing stands. -/
theorem rename_put
    (free : files.lookup other = none) :
    (files.put other text).rename other path = files.put path text := by
  have absent : ∀ entry ∈ files, entry.1 ≠ other := fun entry member same =>
    absurd (List.lookup_eq_none_iff.mp free entry member) (by simp [same])
  unfold rename
  rw [lookup_put, if_pos rfl]
  dsimp only
  have removed : (files.put other text).filter (fun entry => entry.1 ≠ other) = files := by
    unfold put
    rw [free, Option.isSome_none, if_neg Bool.false_ne_true, List.filter_append,
      List.filter_eq_self.mpr fun entry member => decide_eq_true (absent entry member)]
    simp
  rw [removed]

end Files

/-! ## Places of documents -/

/-- A text can be a single name on a path. -/
structure IsSegment (text : String) : Prop where
  notEmpty : text ≠ ""
  notSame : text ≠ "."
  notAbove : text ≠ ".."
  noSlash : '/' ∉ text.toList
  noBackslash : '\\' ∉ text.toList

/-- Both parts of a key can be names. -/
structure StoreKey.IsValid (key : StoreKey) : Prop where
  tenant : IsSegment key.tenantId
  execution : IsSegment key.executionId

namespace FileStore

variable {store : FileStore} {key other : StoreKey}

/-- The check of a key lets exactly the names pass. -/
theorem isKey_iff (text : String) : isKey text = true ↔ IsSegment text := by
  constructor
  · intro accepted
    simp [isKey] at accepted
    exact ⟨accepted.1.1.1, accepted.1.1.2, accepted.1.2, fun member => (accepted.2 _ member).1 rfl,
      fun member => (accepted.2 _ member).2 rfl⟩
  · rintro ⟨notEmpty, notSame, notAbove, noSlash, noBackslash⟩
    have plain : ∀ char ∈ text.toList, char ≠ '/' ∧ char ≠ '\\' := fun char member =>
      ⟨fun same => noSlash (same ▸ member), fun same => noBackslash (same ▸ member)⟩
    simpa [isKey, and_assoc] using ⟨notEmpty, notSame, notAbove, plain⟩

/-- Where the document of an execution lies. -/
def place (store : FileStore) (key : StoreKey) : FilePath :=
  store.root ++ [key.tenantId, key.executionId ++ ".json"]

/-- Where the temporary file lies by way of which a document is written. -/
def temporary (store : FileStore) (key : StoreKey) : FilePath :=
  store.root ++ [key.tenantId, key.executionId ++ ".json" ++ ".tmp"]

/-- Valid keys have paths. -/
theorem path_of_isValid (valid : key.IsValid) : store.path key = .ok (store.place key) := by
  have tenant := (isKey_iff _).mpr valid.tenant
  have execution := (isKey_iff _).mpr valid.execution
  unfold path relativePath checked
  rw [if_pos tenant, if_pos execution]
  rfl

theorem extended_place : (store.place key).extended ".tmp" = store.temporary key := by
  simp [FilePath.extended, place, temporary]

/-- Different keys have different places. -/
theorem eq_of_place_eq (same : store.place key = store.place other) : key = other := by
  have names := List.append_cancel_left same
  simp only [List.cons.injEq, and_true, String.append_left_inj] at names
  obtain ⟨tenantId, executionId⟩ := key
  obtain ⟨rfl, rfl⟩ := names
  rfl

/-- No two documents are written by way of one temporary file. -/
theorem eq_of_temporary_eq (same : store.temporary key = store.temporary other) : key = other := by
  have names := List.append_cancel_left same
  simp only [List.cons.injEq, and_true, String.append_left_inj] at names
  obtain ⟨tenantId, executionId⟩ := key
  obtain ⟨rfl, rfl⟩ := names
  rfl

/-- No document lies where a temporary file does. -/
theorem place_ne_temporary : store.place key ≠ store.temporary other := by
  intro same
  have names := List.append_cancel_left same
  simp only [List.cons.injEq, and_true] at names
  have last := congrArg (fun name : String => name.toList.getLast?) names.2
  simp [String.toList_append] at last

/-- Nothing stands in the way of a document: its path can be followed, and its names
and that of its temporary file can be given. -/
structure IsClear (store : FileStore) (key : StoreKey) : Prop where
  unbroken : (store.place key).isBroken = false
  short : ∀ name ∈ store.temporary key, FilePath.isLongName name = false
  unblocked : store.files.isBlocked (store.place key) = false

/-- The name of a document is shorter than that of its temporary file. -/
theorem IsClear.short_place
    (clear : store.IsClear key) :
    ∀ name ∈ store.place key, FilePath.isLongName name = false := by
  have short := clear.short
  simp only [temporary, place, List.forall_mem_append, List.forall_mem_cons,
    FilePath.isLongName, decide_eq_false_iff_not, Nat.not_lt, String.utf8ByteSize_append]
    at short ⊢
  exact ⟨short.1, short.2.1, Nat.le_trans (Nat.le_add_right _ _) short.2.2.1, by simp⟩

/-! ## What a store holds -/

/-- The files below the directory of a store are the documents that it holds. -/
structure Holds (store : FileStore) (contents : StoreKey → Option Document) : Prop where
  placed : ∀ entry ∈ store.files, store.root <+: entry.1 → ∃ key, entry.1 = store.place key
  found : ∀ key, store.files.lookup (store.place key) = (contents key).map Document.text

/-- A store has no files below its directory. -/
def IsEmpty (store : FileStore) : Prop := ∀ entry ∈ store.files, ¬ store.root <+: entry.1

variable {contents : StoreKey → Option Document} {document : Document}

/-- An empty store has no file below its directory. -/
theorem lookup_eq_none_of_isEmpty
    {path : FilePath}
    (empty : store.IsEmpty)
    (below : store.root <+: path) :
    store.files.lookup path = none := by
  refine List.lookup_eq_none_iff.mpr fun entry member => ?_
  refine bne_iff_ne.mpr fun same => empty entry member ?_
  rwa [← same]

/-- An empty store holds no document. -/
theorem holds_of_isEmpty (empty : store.IsEmpty) : store.Holds fun _ => none where
  placed entry member below := (empty entry member below).elim
  found _ := lookup_eq_none_of_isEmpty empty (List.prefix_append _ _)

namespace Holds

/-- A document that is written is held in place of the one before it, and beside
all others. -/
theorem put
    (holds : store.Holds contents)
    (key : StoreKey)
    (document : Document) :
    Holds { store with files := store.files.put (store.place key) document.text }
      fun other => if key = other then some document else contents other where
  placed entry member below := by
    rcases Files.mem_put _ _ _ member with here | old
    · exact ⟨key, here⟩
    · exact holds.placed entry old below
  found other := by
    refine (Files.lookup_put _ _ _ _).trans ?_
    by_cases same : key = other
    · rw [if_pos same, same]
      exact if_pos rfl
    · rw [if_neg same]
      exact (if_neg fun here => same (eq_of_place_eq here).symm).trans (holds.found other)

/-- Documents stand in the way of no other. -/
theorem isClear_put
    (clear : store.IsClear other)
    (key : StoreKey)
    (text : String) :
    IsClear { store with files := store.files.put (store.place key) text } other where
  unbroken := clear.unbroken
  short := clear.short
  unblocked := by
    have unblocked := clear.unblocked
    simp only [Files.isBlocked, List.any_eq_false] at unblocked ⊢
    intro entry member
    rcases Files.mem_put _ _ _ member with here | old
    · rw [here]
      simp [place]
    · exact unblocked entry old

/-- No temporary file is left. -/
theorem lookup_temporary (holds : store.Holds contents) (key : StoreKey) :
    store.files.lookup (store.temporary key) = none := by
  refine List.lookup_eq_none_iff.mpr fun entry member => bne_iff_ne.mpr fun same => ?_
  have below : store.root <+: entry.1 := same ▸ List.prefix_append _ _
  obtain ⟨other, placed⟩ := holds.placed entry member below
  exact place_ne_temporary (placed.symm.trans same.symm)

/-- Nothing lies below a document. -/
theorem not_isDirectory (holds : store.Holds contents) (key : StoreKey) :
    store.files.isDirectory (store.place key) = false := by
  refine Bool.eq_false_iff.mpr fun directory => ?_
  simp only [Files.isDirectory, Bool.or_eq_true, List.isEmpty_iff, List.any_eq_true,
    Bool.and_eq_true, List.isPrefixOf_iff_prefix, decide_eq_true_eq] at directory
  rcases directory with missing | ⟨entry, member, below, longer⟩
  · simp [place] at missing
  · obtain ⟨other, placed⟩ :=
      holds.placed entry member ((List.prefix_append _ _).trans below)
    rw [placed] at longer
    simp [place] at longer

/-- What is found where a document may lie. -/
theorem find_place
    (holds : store.Holds contents)
    (key : StoreKey) :
    (store.files.find (store.place key) = .unreachable ∧ ¬ store.IsClear key) ∨
      store.files.find (store.place key) =
        match contents key with
        | some document => .file document.text
        | none => .missing := by
  unfold Files.find
  split
  next broken =>
    refine .inl ⟨rfl, fun clear => ?_⟩
    rw [clear.unbroken] at broken
    cases broken
  next =>
    rw [holds.found key, holds.not_isDirectory key]
    cases contents key with
    | some document => exact .inr rfl
    | none =>
      dsimp only [Option.map_none]
      rw [if_neg Bool.false_ne_true]
      split
      next barred =>
        refine .inl ⟨rfl, fun clear => ?_⟩
        rw [clear.unblocked, Bool.false_or, Files.asksLongName, List.any_eq_true] at barred
        obtain ⟨count, -, asked⟩ := barred
        obtain ⟨name, known, long⟩ :=
          (Option.any_eq_true _ _).mp (Bool.and_eq_true_iff.mp asked).2
        rw [clear.short_place name (List.mem_of_getElem? known)] at long
        cases long
      next => exact .inr rfl

end Holds

/-! ## Operations -/

/-- An operation has an outcome, unless files cannot be reached, which is only so where
something stands in the way. -/
def Settles {α : Type} (clear : Prop) (operation outcome : Except StoreError α) : Prop :=
  ((∃ detail, operation = .error (.unreachable detail)) ∧ ¬ clear) ∨ operation = outcome

/-- Operations one after another have an outcome if each of them has. -/
theorem Settles.bind
    {α β : Type}
    {clear : Prop}
    {operation : Except StoreError α}
    {value : α}
    {next : α → Except StoreError β}
    {outcome : Except StoreError β}
    (settles : Settles clear operation (.ok value))
    (continued : Settles clear (next value) outcome) :
    Settles clear (operation.bind next) outcome := by
  rcases settles with ⟨⟨detail, rfl⟩, barred⟩ | rfl
  · exact .inl ⟨⟨detail, rfl⟩, barred⟩
  · exact continued

/-- A change settles where nothing stands in the way, or where the store did not say that
files cannot be reached. -/
theorem Settles.of_changed
    {clear : Prop}
    {before : Store}
    {operation outcome : Except StoreError FileStore}
    (settles : Settles clear operation outcome)
    (reachable : clear ∨ ∀ detail,
      (before.changed (operation.map .files)).1 ≠ .refused (.unreachable detail)) :
    operation = outcome := by
  rcases settles with ⟨⟨detail, rfl⟩, barred⟩ | settled
  · exact (reachable.resolve_left barred detail rfl).elim
  · exact settled

/-- So does the answer to a question. -/
theorem Settles.of_asked
    {α : Type}
    {clear : Prop}
    {before : Store}
    {answer : α → StoreAnswer}
    {operation outcome : Except StoreError α}
    (settles : Settles clear operation outcome)
    (reachable : clear ∨ ∀ detail,
      (before.asked answer operation).1 ≠ .refused (.unreachable detail)) :
    operation = outcome := by
  rcases settles with ⟨⟨detail, rfl⟩, barred⟩ | settled
  · exact (reachable.resolve_left barred detail rfl).elim
  · exact settled

/-- A document reads back as it was written. -/
def Decodes (document : Document) : Prop := Document.ofText? document.text = some document

section

variable (holds : store.Holds contents)

include holds

/-- A text is written unless something stands in the way of its file. -/
theorem settles_writeText (text : String) :
    Settles (store.IsClear key) (store.writeText (store.place key) text)
      (.ok { store with files := store.files.put (store.place key) text }) := by
  unfold writeText Files.write?
  split
  next files written =>
    split at written
    next => cases written
    next =>
      cases written
      exact .inr rfl
  next unwritten =>
    refine .inl ⟨⟨_, rfl⟩, fun clear => ?_⟩
    have short : (store.temporary key).any FilePath.isLongName = false :=
      List.any_eq_false.mpr fun name member =>
        Bool.eq_false_iff.mp (clear.short name member)
    rw [clear.unbroken, extended_place, short, clear.unblocked, holds.not_isDirectory key]
      at unwritten
    cases unwritten

/-- The document that is held is read, or none where none is held. -/
theorem settles_read (decodes : ∀ document ∈ contents key, Decodes document) :
    Settles (store.IsClear key) (store.read (store.place key)) (.ok (contents key)) := by
  unfold read
  rcases holds.find_place key with ⟨unreachable, barred⟩ | found
  · rw [unreachable]
    exact .inl ⟨⟨_, rfl⟩, barred⟩
  · rw [found]
    cases known : contents key with
    | none => exact .inr rfl
    | some document =>
      dsimp only
      rw [decodes document known]
      exact .inr rfl

variable (valid : key.IsValid)

include valid

/-- A document is stored where there is none. -/
theorem settles_create
    {record : ExecutionRecord}
    (same : record.key = key) :
    Settles (store.IsClear key) (store.create record)
      (match contents key with
      | some _ => .error (.alreadyExists record.tenantId record.executionId)
      | none =>
        let document : Document := { execution := record }
        .ok { store with files := store.files.put (store.place key) document.text }) := by
  unfold create
  rw [same, path_of_isValid valid]
  simp only [bind, Except.bind]
  rcases holds.find_place key with ⟨unreachable, barred⟩ | found
  · rw [unreachable]
    exact .inl ⟨⟨_, rfl⟩, barred⟩
  · rw [found]
    cases contents key with
    | none => exact settles_writeText holds _
    | some document => exact .inr rfl

variable (decodes : ∀ document ∈ contents key, Decodes document)

include decodes

/-- A document is changed where there is one. -/
theorem settles_modify (change : Document → Document) :
    Settles (store.IsClear key) (store.modify key change)
      (match contents key with
      | some document =>
        .ok { store with files := store.files.put (store.place key) (change document).text }
      | none => .error (.notFound key.tenantId key.executionId)) := by
  unfold modify
  rw [path_of_isValid valid]
  change Settles _ ((store.read (store.place key)).bind _) _
  refine (settles_read holds decodes).bind ?_
  cases contents key with
  | none => exact .inr rfl
  | some document => exact settles_writeText holds _

/-- The record of an execution is found where its document is held. -/
theorem settles_execution? :
    Settles (store.IsClear key) (store.execution? key)
      (.ok ((contents key).map Document.execution)) := by
  unfold execution?
  rw [path_of_isValid valid]
  change Settles _ ((store.read (store.place key)).bind _) _
  exact (settles_read holds decodes).bind (.inr rfl)

/-- So are the attempts, of which there are none without a document. -/
theorem settles_steps :
    Settles (store.IsClear key) (store.steps key)
      (.ok (((contents key).map Document.steps).getD [])) := by
  unfold steps
  rw [path_of_isValid valid]
  change Settles _ ((store.read (store.place key)).bind _) _
  exact (settles_read holds decodes).bind (.inr rfl)

end

/-- What a store in files answers a call, and what it holds afterwards. -/
theorem Holds.call
    {call : StoreCall}
    (holds : store.Holds contents)
    (valid : call.key.IsValid)
    (decodes : ∀ document ∈ contents call.key, Decodes document)
    (reachable : store.IsClear call.key ∨ ∀ detail,
      ((Store.files store).call call).1 ≠ .refused (.unreachable detail)) :
    ∃ after : FileStore, (Store.files store).call call =
        (call.respond (contents call.key), .files after) ∧
      after.root = store.root ∧ after.Holds (call.effect contents) ∧
      ∀ key, store.IsClear key → after.IsClear key := by
  have kept (same : call.revise (contents call.key) = contents call.key) :
      store.Holds (call.effect contents) ∧ ∀ key, store.IsClear key → store.IsClear key := by
    rw [StoreCall.effect_eq_self same]
    exact ⟨holds, fun _ clear => clear⟩
  have put {document : Document} (revised : call.revise (contents call.key) = some document) :
      let after := { store with files := store.files.put (store.place call.key) document.text }
      after.Holds (call.effect contents) ∧ ∀ key, store.IsClear key → after.IsClear key := by
    rw [StoreCall.effect_of_revise revised]
    exact ⟨holds.put call.key document, fun _ clear => isClear_put clear call.key _⟩
  cases call with
  | create record =>
    have created := (settles_create holds valid rfl).of_changed reachable
    change ∃ after, Store.changed _ ((store.create record).map .files) = _ ∧ _
    rw [created]
    cases known : contents (StoreCall.create record).key with
    | none => exact ⟨_, rfl, rfl, put (by rw [known]; rfl)⟩
    | some document => exact ⟨_, rfl, rfl, kept (by rw [known]; rfl)⟩
  | update record =>
    have modified := (settles_modify holds valid decodes _).of_changed reachable
    change ∃ after, Store.changed _ ((store.modify record.key _).map .files) = _ ∧ _
    rw [show store.modify record.key _ = _ from modified]
    cases known : contents (StoreCall.update record).key with
    | none => exact ⟨_, rfl, rfl, kept (by rw [known]; rfl)⟩
    | some document => exact ⟨_, rfl, rfl, put (by rw [known]; rfl)⟩
  | append record =>
    have modified := (settles_modify holds valid decodes _).of_changed reachable
    change ∃ after, Store.changed _ ((store.modify record.key _).map .files) = _ ∧ _
    rw [show store.modify record.key _ = _ from modified]
    cases known : contents (StoreCall.append record).key with
    | none => exact ⟨_, rfl, rfl, kept (by rw [known]; rfl)⟩
    | some document => exact ⟨_, rfl, rfl, put (by rw [known]; rfl)⟩
  | execution key =>
    have found := (settles_execution? holds valid decodes).of_asked reachable
    refine ⟨store, ?_, rfl, kept rfl⟩
    change Store.asked _ _ (store.execution? key) = _
    rw [show store.execution? key = _ from found]
    rfl
  | steps key =>
    have found := (settles_steps holds valid decodes).of_asked reachable
    refine ⟨store, ?_, rfl, kept rfl⟩
    change Store.asked _ _ (store.steps key) = _
    rw [show store.steps key = _ from found]
    rfl

/-- A store in files answers calls as its log has it, as long as the documents on the
way read back, and nothing stands in their way or the answers do not say so. -/
theorem Holds.calls
    {log : StoreLog}
    {calls : List StoreCall}
    (orderly : log.IsOrderly)
    (holds : store.Holds log.document?)
    (valid : ∀ call ∈ calls, call.key.IsValid)
    (decodes : ∀ past, past <+: calls → ∀ key,
      ∀ document ∈ (past.foldl StoreLog.note log).document? key, Decodes document)
    (reachable : (∀ call ∈ calls, store.IsClear call.key) ∨ ∀ detail,
      .refused (.unreachable detail) ∉ (Store.calls calls (.files store)).1) :
    ∃ after : FileStore, Store.calls calls (.files store) = (log.answers calls, .files after) ∧
      after.root = store.root ∧ after.Holds (calls.foldl StoreLog.note log).document? := by
  induction calls generalizing store log with
  | nil => exact ⟨store, rfl, rfl, holds⟩
  | cons call rest inductionHypothesis =>
    have valid := List.forall_mem_cons.mp valid
    unfold Store.calls at reachable
    rw [List.forall_mem_cons] at reachable
    simp only [List.mem_cons, not_or, forall_and] at reachable
    obtain ⟨middle, answered, root, held, clears⟩ := holds.call valid.1
      (decodes [] List.nil_prefix call.key)
      (reachable.imp And.left fun reachable detail same => reachable.1 detail same.symm)
    rw [← StoreLog.document?_note orderly] at held
    rw [answered] at reachable
    obtain ⟨after, others, same, last⟩ := inductionHypothesis (orderly.note call) held valid.2
      (fun past starts => decodes (call :: past) (List.cons_prefix_cons.mpr ⟨rfl, starts⟩))
      (reachable.imp (fun clear other member => clears _ (clear.2 other member)) And.right)
    refine ⟨after, ?_, same.trans root, last⟩
    unfold Store.calls StoreLog.answers StoreLog.answer
    rw [answered]
    dsimp only
    rw [others]

/-- Where nothing stands in the way, files can be reached. -/
theorem reachable_of_isClear
    {calls : List StoreCall}
    (empty : store.IsEmpty)
    (valid : ∀ call ∈ calls, call.key.IsValid)
    (decodes : ∀ past, past <+: calls → ∀ key,
      ∀ document ∈ (StoreLog.after past).document? key, Decodes document)
    (clear : ∀ call ∈ calls, store.IsClear call.key)
    (detail : String) :
    .refused (.unreachable detail) ∉ (Store.calls calls (.files store)).1 := by
  obtain ⟨after, answered, -⟩ :=
    Holds.calls StoreLog.isOrderly_nil (holds_of_isEmpty empty) valid decodes (.inl clear)
  rw [answered]
  exact StoreLog.reachable_answers [] calls detail

theorem eq_place_of_path
    {path : FilePath}
    (known : store.path key = .ok path) :
    path = store.place key := by
  by_cases valid : key.IsValid
  · rw [path_of_isValid valid] at known
    exact (Except.ok.inj known).symm
  · unfold FileStore.path relativePath checked at known
    by_cases tenant : isKey key.tenantId = true
    · by_cases execution : isKey key.executionId = true
      · exact (valid ⟨(isKey_iff _).mp tenant, (isKey_iff _).mp execution⟩).elim
      · rw [if_pos tenant, if_neg execution] at known
        cases known
    · rw [if_neg tenant] at known
      cases known

end FileStore

/-! ## Refinement -/

/-- A store in files does what a store in memory does, and both do what the log of the
calls asks for: what is kept under a key is the record that was stored last with the
attempts in the order in which they were added.  The files of the store are the texts of
these documents, and each could as well have been written by way of its temporary
file. -/
structure Store.Agrees (store : FileStore) (calls : List StoreCall) : Prop where
  memory : (Store.calls calls .empty).1 = StoreLog.answers [] calls
  files : (Store.calls calls (.files store)).1 = StoreLog.answers [] calls
  documents : ∃ documents, (Store.calls calls .empty).2 = .memory documents ∧
    documents.document? = (StoreLog.after calls).document?
  texts : ∃ after : FileStore, (Store.calls calls (.files store)).2 = .files after ∧
    ∀ key path, store.path key = .ok path →
      after.files.lookup path = ((StoreLog.after calls).document? key).map Document.text ∧
      after.files.lookup (path.extended ".tmp") = none ∧
      ∀ text, (after.files.put (path.extended ".tmp") text).rename (path.extended ".tmp") path =
        after.files.put path text

/-- However a store in files is called that starts empty, it agrees with one in memory,
as long as all keys are valid, files can be reached, and every document on the way reads
back.  A call only changes what is under its key, one that is refused nothing at all, an
update no trail and an addition to a trail no record.  Different keys have different
paths, and so have their temporary files. -/
theorem Store.files_refine_memory
    {store : FileStore}
    {calls : List StoreCall}
    (empty : store.IsEmpty)
    (valid : ∀ call ∈ calls, call.key.IsValid)
    (decodes : ∀ past, past <+: calls → ∀ key,
      ∀ document ∈ (StoreLog.after past).document? key, FileStore.Decodes document)
    (reachable : ∀ detail,
      .refused (.unreachable detail) ∉ (Store.calls calls (.files store)).1) :
    Store.Agrees store calls ∧
      (∀ past call, StoreLog.Laws past call (StoreLog.after past).document?
        (StoreLog.after (past ++ [call])).document?) ∧
      ∀ key other path otherPath, store.path key = .ok path → store.path other = .ok otherPath →
        path ≠ otherPath.extended ".tmp" ∧
          (key ≠ other →
            path ≠ otherPath ∧ path.extended ".tmp" ≠ otherPath.extended ".tmp") := by
  refine ⟨?_, StoreLog.laws, ?_⟩
  · obtain ⟨documents, memory, held⟩ := @MemoryStore.calls_eq .empty [] StoreLog.isOrderly_nil
      rfl calls
    obtain ⟨after, files, root, holds⟩ := FileStore.Holds.calls StoreLog.isOrderly_nil
      (FileStore.holds_of_isEmpty empty) valid decodes (.inr reachable)
    refine ⟨congrArg Prod.fst memory, congrArg Prod.fst files,
      ⟨documents, congrArg Prod.snd memory, held⟩, after, congrArg Prod.snd files, ?_⟩
    intro key path known
    have place : path = after.place key := by
      rw [FileStore.eq_place_of_path known, FileStore.place, FileStore.place, root]
    have temporary : path.extended ".tmp" = after.temporary key := by
      rw [place, FileStore.extended_place]
    have free := holds.lookup_temporary key
    rw [temporary, place]
    exact ⟨holds.found key, free, fun text => Files.rename_put _ _ _ _ free⟩
  · intro key other path otherPath known found
    rw [FileStore.eq_place_of_path known, FileStore.eq_place_of_path found,
      FileStore.extended_place, FileStore.extended_place]
    exact ⟨FileStore.place_ne_temporary, fun different =>
      ⟨fun same => different (FileStore.eq_of_place_eq same),
        fun same => different (FileStore.eq_of_temporary_eq same)⟩⟩

/-! ## Documents that read back -/

deriving instance DecidableEq for Number

namespace Json

mutual

/-- Decides whether two values are the same. -/
def decideEq (first second : Json) : Decidable (first = second) :=
  match first, second with
  | .null, .null => .isTrue rfl
  | .bool first, .bool second => decidable_of_iff (first = second) (by simp)
  | .number first, .number second => decidable_of_iff (first = second) (by simp)
  | .text first, .text second => decidable_of_iff (first = second) (by simp)
  | .array first, .array second =>
    have := decideItemsEq first second
    decidable_of_iff (first = second) (by simp)
  | .object first, .object second =>
    have := decideEntriesEq first second
    decidable_of_iff (first = second) (by simp)
  | .null, .bool _ | .null, .number _ | .null, .text _ | .null, .array _ | .null, .object _
  | .bool _, .null | .bool _, .number _ | .bool _, .text _ | .bool _, .array _ | .bool _, .object _
  | .number _, .null | .number _, .bool _ | .number _, .text _ | .number _, .array _
  | .number _, .object _ | .text _, .null | .text _, .bool _ | .text _, .number _
  | .text _, .array _ | .text _, .object _ | .array _, .null | .array _, .bool _
  | .array _, .number _ | .array _, .text _ | .array _, .object _ | .object _, .null
  | .object _, .bool _ | .object _, .number _ | .object _, .text _ | .object _, .array _ =>
    .isFalse nofun

/-- Decides whether two lists of values are the same. -/
def decideItemsEq (first second : List Json) : Decidable (first = second) :=
  match first, second with
  | [], [] => .isTrue rfl
  | [], _ :: _ | _ :: _, [] => .isFalse nofun
  | item :: first, other :: second =>
    have := decideEq item other
    have := decideItemsEq first second
    decidable_of_iff (item = other ∧ first = second) (by simp)

/-- Decides whether two lists of entries are the same. -/
def decideEntriesEq (first second : List (String × Json)) : Decidable (first = second) :=
  match first, second with
  | [], [] => .isTrue rfl
  | [], _ :: _ | _ :: _, [] => .isFalse nofun
  | (key, value) :: first, (otherKey, other) :: second =>
    have := decideEq value other
    have := decideEntriesEq first second
    decidable_of_iff (key = otherKey ∧ value = other ∧ first = second) (by simp [and_assoc])

end

instance : DecidableEq Json := decideEq

end Json

deriving instance DecidableEq for ResourceUsage
deriving instance DecidableEq for ExecutionRecord
deriving instance DecidableEq for StepRecord
deriving instance DecidableEq for Document

namespace Document

/-- The characters of a document. -/
def chars (document : Document) : List Char :=
  Json.layOut 0 (.object
    [("execution", .object document.execution.entries),
     ("steps", .array (document.steps.map (fun step => .object step.entries)))])

/-- Reads a document from its characters. -/
def ofChars? (chars : List Char) : Option Document :=
  (match Json.Reader.value? (chars.length + 2) Json.depthLimit chars with
  | some (tree, rest) => if (Json.Reader.skipSpace rest).isEmpty then some tree else none
  | none => none).bind read?

theorem ofText?_eq_ofChars? (text : String) : ofText? text = ofChars? text.toList := rfl

/-- Whether a document reads back can be told from its characters. -/
theorem decodes_iff (document : Document) :
    FileStore.Decodes document ↔ ofChars? document.chars = some document := by
  have written : document.text.toList = document.chars := String.toList_ofList
  unfold FileStore.Decodes
  rw [ofText?_eq_ofChars?, written]

end Document

/-- An execution that was stored, and then brought up to date. -/
def ExecutionRecord.sample (status : ExecutionStatus) : ExecutionRecord where
  tenantId := "acme"
  executionId := "run.1"
  workflowId := "single"
  status := status
  totalSteps := 1
  startedAt := .ofMillis 0
  updatedAt := .ofMillis 0

/-- An attempt at its step. -/
def StepRecord.sample : StepRecord where
  tenantId := "acme"
  executionId := "run.1"
  stepId := "work"
  stepType := .custom "work"
  status := .completed
  retryCount := 0
  startedAt := .ofMillis 0
  completedAt := .ofMillis 0
  durationMs := 1

/-- Calls that store an execution, bring it up to date and add an attempt, with one that is
refused in between. -/
def StoreCall.samples : List StoreCall :=
  [.create (.sample .pending),
   .create (.sample .running),
   .update (.sample .running),
   .append .sample,
   .steps ⟨"acme", "run.1"⟩]

/-- What holds of every beginning of a list. -/
theorem forall_prefix_cons
    {α : Type}
    {holds : List α → Prop}
    {first : α}
    {rest : List α} :
    (∀ past, past <+: first :: rest → holds past) ↔
      holds [] ∧ ∀ past, past <+: rest → holds (first :: past) := by
  constructor
  · intro all
    exact ⟨all [] List.nil_prefix, fun past starts =>
      all _ (List.cons_prefix_cons.mpr ⟨rfl, starts⟩)⟩
  · rintro ⟨none, some⟩ past starts
    rcases List.prefix_cons_iff.mp starts with rfl | ⟨later, rfl, shorter⟩
    · exact none
    · exact some later shorter

/-- All of the calls are about one execution. -/
theorem key_of_mem_samples : ∀ call ∈ StoreCall.samples, call.key = ⟨"acme", "run.1"⟩ := by
  simp [StoreCall.samples, StoreCall.key, ExecutionRecord.key, ExecutionRecord.sample,
    StepRecord.key, StepRecord.sample]

/-- Every document on the way of the calls reads back. -/
theorem decodes_samples :
    ∀ past, past <+: StoreCall.samples → ∀ key,
      ∀ document ∈ (StoreLog.after past).document? key, FileStore.Decodes document := by
  have pending : FileStore.Decodes { execution := .sample .pending } := by
    rw [Document.decodes_iff]
    decide +kernel
  have running : FileStore.Decodes { execution := .sample .running } := by
    rw [Document.decodes_iff]
    decide +kernel
  have attempted : FileStore.Decodes { execution := .sample .running, steps := [.sample] } := by
    rw [Document.decodes_iff]
    decide +kernel
  have decodes : ∀ past, past <+: StoreCall.samples → ∀ document ∈
      past.foldl (fun document call => call.revise document) none,
      FileStore.Decodes document := by
    simp only [StoreCall.samples, forall_prefix_cons, List.prefix_nil, forall_eq,
      List.foldl_cons, List.foldl_nil, StoreCall.revise, List.nil_append, Option.mem_def,
      Option.some.injEq, forall_eq', reduceCtorEq, false_implies, implies_true, true_and]
    exact ⟨pending, pending, running, attempted, attempted⟩
  intro past starts key document member
  rw [StoreLog.document?_after_of_key fun call member =>
    key_of_mem_samples call (starts.mem member)] at member
  split at member
  next => exact decodes past starts document member
  next => cases member

/-- A store in files below some directory and one in memory agree on the calls. -/
theorem agrees_samples : Store.Agrees { root := ["data"] } StoreCall.samples := by
  have valid : StoreKey.IsValid ⟨"acme", "run.1"⟩ := by
    constructor <;> constructor <;> simp
  have clear : FileStore.IsClear { root := ["data"] } ⟨"acme", "run.1"⟩ := by
    constructor
    · simp [FileStore.place, FilePath.isBroken]
    · simp [FileStore.temporary, FilePath.isLongName, nameLimit]
      decide
    · rfl
  have empty : FileStore.IsEmpty { root := ["data"] } := nofun
  have valid : ∀ call ∈ StoreCall.samples, call.key.IsValid :=
    fun call member => key_of_mem_samples call member ▸ valid
  have clear : ∀ call ∈ StoreCall.samples, FileStore.IsClear { root := ["data"] } call.key :=
    fun call member => key_of_mem_samples call member ▸ clear
  exact (Store.files_refine_memory empty valid decodes_samples
    (FileStore.reachable_of_isClear empty valid decodes_samples clear)).1

end WorkflowEngine
