import Mathlib.Data.String.Basic
import WorkflowEngine.Dict

/-!
# The order of keys

Whatever is stored in a dictionary, its keys stay in order, and a dictionary in that
order is the only one with its entries.  The order in which values are stored under
different keys does not matter.
-/

namespace WorkflowEngine

namespace Dict

variable {α : Type} {dict target : Dict α}

section

variable {key other : String}

/-- Of two values stored under one key the later one stays. -/
theorem insert_insert (key : String) (value later : α) (dict : Dict α) :
    insert key later (insert key value dict) = insert key later dict := by
  induction dict with
  | nil => exact insert_cons_self _ _ _ _
  | cons first rest inductionHypothesis =>
    obtain ⟨other, old⟩ := first
    rcases lt_trichotomy key other with less | rfl | greater
    · simp only [insert_cons_of_lt less, insert_cons_self]
    · simp only [insert_cons_self]
    · simp only [insert_cons_of_gt greater, inductionHypothesis]

/-- Values are stored under different keys in any order. -/
theorem insert_comm
    (different : key ≠ other)
    (value content : α)
    (dict : Dict α) :
    insert key value (insert other content dict) =
      insert other content (insert key value dict) := by
  wlog less : key < other generalizing key other value content
  · have greater : other < key := lt_of_le_of_ne (le_of_not_gt less) different.symm
    exact (this different.symm content value greater).symm
  induction dict with
  | nil => simp only [insert_nil, insert_cons_of_lt less, insert_cons_of_gt less]
  | cons first rest inductionHypothesis =>
    obtain ⟨middle, old⟩ := first
    -- the place of the larger key comes first: the smaller one is never stored behind it
    rcases lt_trichotomy other middle with below | rfl | above
    · simp only [insert_cons_of_lt, insert_cons_of_gt, less, below, less.trans below]
    · simp only [insert_cons_self, insert_cons_of_lt less, insert_cons_of_gt less]
    · rw [insert_cons_of_gt above]
      rcases lt_trichotomy key middle with before | rfl | behind
      · simp only [insert_cons_of_lt before, insert_cons_of_gt, less, above]
      · simp only [insert_cons_self, insert_cons_of_gt less]
      · simp only [insert_cons_of_gt, behind, above, inductionHypothesis]

/-- A key above all others is put at the end. -/
theorem insert_of_forall_lt
    (below : ∀ entry ∈ dict, entry.1 < key)
    (value : α) :
    insert key value dict = dict ++ [(key, value)] := by
  induction dict with
  | nil => rfl
  | cons first rest inductionHypothesis =>
    obtain ⟨other, old⟩ := first
    have later := inductionHypothesis fun entry member =>
      below entry (List.mem_cons_of_mem _ member)
    rw [insert_cons_of_gt (below _ List.mem_cons_self), later]
    rfl

end

theorem Sorted.nodup_keys (sorted : Sorted dict) : (dict.map Prod.fst).Nodup :=
  List.pairwise_map.mpr (sorted.imp fun less => less.ne)

/-- A dictionary that is laid over another one brings in no entries but its own. -/
theorem of_mem_merge
    {source : Dict α}
    {entry : String × α}
    (member : entry ∈ merge target source) :
    entry ∈ target ∨ entry ∈ source := by
  induction source generalizing target with
  | nil => exact .inl member
  | cons first rest inductionHypothesis =>
    rcases inductionHypothesis member with old | new
    · rcases of_mem_insert old with rfl | old
      · exact .inr List.mem_cons_self
      · exact .inl old
    · exact .inr (List.mem_cons_of_mem _ new)

/-- Every entry of a dictionary is one of those it was made of. -/
theorem mem_of_mem_ofList
    {entries : List (String × α)}
    {entry : String × α}
    (member : entry ∈ ofList entries) :
    entry ∈ entries :=
  (of_mem_merge member).resolve_left List.not_mem_nil

/-- Entries that continue the order of keys are simply appended. -/
theorem merge_eq_append
    {source : Dict α}
    (sorted : Sorted (target ++ source)) :
    merge target source = target ++ source := by
  induction source generalizing target with
  | nil => simp
  | cons first rest inductionHypothesis =>
    have below : ∀ entry ∈ target, entry.1 < first.1 := fun entry member =>
      (List.pairwise_append.mp sorted).2.2 entry member first List.mem_cons_self
    have appended := insert_of_forall_lt below first.2
    show merge (insert first.1 first.2 target) rest = _
    rw [appended, inductionHypothesis (by simpa using sorted)]
    simp

/-- A list of entries in the order of their keys is a dictionary as it is. -/
theorem ofList_of_sorted (sorted : Sorted dict) : ofList dict = dict :=
  show merge [] dict = [] ++ dict from merge_eq_append sorted

theorem lookup_eq_find? (key : String) (dict : Dict α) : List.lookup key dict = find? key dict := by
  induction dict with
  | nil => rfl
  | cons first rest inductionHypothesis =>
    obtain ⟨other, value⟩ := first
    rw [List.lookup_cons, find?_cons, inductionHypothesis]
    by_cases same : key = other
    · simp [same]
    · simp [beq_false_of_ne same, Ne.symm same]

/-- What was just stored is found under its key, and everything else where it was. -/
theorem lookup_insert (key other : String) (value : α) (dict : Dict α) :
    List.lookup other (insert key value dict) =
      if other = key then some value else List.lookup other dict := by
  rw [lookup_eq_find?, lookup_eq_find?]
  split
  next same =>
    subst same
    exact find?_insert_self _ _ _
  next different => exact find?_insert_of_ne different _ _

theorem lookup_eq_none_of_notMem
    {key : String}
    {entries : List (String × α)}
    (absent : key ∉ entries.map Prod.fst) :
    List.lookup key entries = none := by
  rw [List.lookup_eq_none_iff]
  rintro ⟨other, value⟩ member
  have different : key ≠ other := by
    rintro rfl
    exact absent (List.mem_map_of_mem member)
  simpa using different

/-- In a dictionary laid over another one, its own value under a key comes first. -/
theorem lookup_merge
    {source : Dict α}
    (distinct : (source.map Prod.fst).Nodup)
    (key : String) :
    List.lookup key (merge target source) =
      (List.lookup key source).or (List.lookup key target) := by
  induction source generalizing target with
  | nil => rfl
  | cons first rest inductionHypothesis =>
    obtain ⟨other, value⟩ := first
    obtain ⟨fresh, distinct⟩ := List.nodup_cons.mp distinct
    show List.lookup key (merge (insert other value target) rest) = _
    rw [inductionHypothesis distinct, lookup_insert, List.lookup_cons]
    by_cases same : key = other
    · subst same
      simp [lookup_eq_none_of_notMem fresh]
    · simp [same, beq_false_of_ne same]

/-- In a dictionary there is what was listed. -/
theorem lookup_ofList
    {entries : List (String × α)}
    (distinct : (entries.map Prod.fst).Nodup)
    (key : String) :
    List.lookup key (ofList entries) = List.lookup key entries := by
  show List.lookup key (merge [] entries) = _
  rw [lookup_merge distinct]
  simp

end Dict

/-- The entries of a dictionary make up this dictionary again. -/
@[simp] theorem SortedDict.ofList_entries {α : Type} (dict : SortedDict α) :
    ofList dict.entries = dict := by
  unfold ofList
  congr
  exact Dict.ofList_of_sorted dict.sorted

end WorkflowEngine
