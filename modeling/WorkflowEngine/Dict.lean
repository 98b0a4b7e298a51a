/-!
# Dictionaries

A dictionary is a list of entries with text keys in strictly increasing order
of their code points.  Every operation below keeps that order, so two
dictionaries with the same content are equal lists, and whatever walks through
a dictionary meets its keys in one fixed order.  Definitions that are read from
outside keep their dictionaries together with a proof of that order.
-/

namespace WorkflowEngine

/-- Entries with text keys, listed in key order. -/
abbrev Dict (α : Type) := List (String × α)

namespace Dict

variable {α β : Type}

/-- The keys are strictly increasing. -/
def Sorted (dict : Dict α) : Prop :=
  dict.Pairwise (fun first second => first.1 < second.1)

instance (dict : Dict α) : Decidable (Sorted dict) :=
  inferInstanceAs (Decidable (List.Pairwise _ dict))

/-- The value stored under a key. -/
def find? (key : String) : Dict α → Option α
  | [] => none
  | (other, value) :: rest => if other = key then some value else find? key rest

@[simp] theorem find?_nil (key : String) : find? key ([] : Dict α) = none := rfl

@[simp] theorem find?_cons
    (key other : String) (value : α) (rest : Dict α) :
    find? key ((other, value) :: rest) =
      if other = key then some value else find? key rest := rfl

/-- Whether a key is present. -/
def contains (key : String) (dict : Dict α) : Bool := (find? key dict).isSome

/-- The keys in increasing order. -/
def keys (dict : Dict α) : List String := dict.map Prod.fst

/-- The values in the order of their keys. -/
def values (dict : Dict α) : List α := dict.map Prod.snd

/-- Stores a value under a key, replacing any earlier one. -/
def insert (key : String) (value : α) : Dict α → Dict α
  | [] => [(key, value)]
  | (other, old) :: rest =>
    if other = key then (key, value) :: rest
    else if key < other then (key, value) :: (other, old) :: rest
    else (other, old) :: insert key value rest

@[simp] theorem insert_nil (key : String) (value : α) :
    insert key value [] = [(key, value)] := rfl

/-- Removes a key. -/
def erase (key : String) : Dict α → Dict α
  | [] => []
  | (other, value) :: rest =>
    if other = key then rest else (other, value) :: erase key rest

@[simp] theorem erase_nil (key : String) : erase key ([] : Dict α) = [] := rfl

/-- Changes the value under a key, when there is one. -/
def modify (key : String) (change : α → α) : Dict α → Dict α
  | [] => []
  | (other, value) :: rest =>
    if other = key then (other, change value) :: rest
    else (other, value) :: modify key change rest

/-- The dictionary of a list of entries; of two entries with one key the later
one counts. -/
def ofList (entries : List (String × α)) : Dict α :=
  entries.foldl (fun dict entry => insert entry.1 entry.2 dict) []

/-- Entries of the second dictionary laid over the first. -/
def merge (target source : Dict α) : Dict α :=
  source.foldl (fun dict entry => insert entry.1 entry.2 dict) target

@[simp] theorem merge_nil (target : Dict α) : merge target [] = target := rfl

/-- Applies a function to every value. -/
def mapValues (change : α → β) (dict : Dict α) : Dict β :=
  dict.map (fun entry => (entry.1, change entry.2))

/-- A key just stored holds the stored value. -/
theorem find?_insert_self (key : String) (value : α) (dict : Dict α) :
    find? key (insert key value dict) = some value := by
  induction dict with
  | nil => simp [insert]
  | cons entry rest ih =>
    obtain ⟨other, old⟩ := entry
    simp only [insert]
    split
    · simp
    · split
      · simp
      · simp [*]

/-- Storing under one key leaves the others alone. -/
theorem find?_insert_of_ne {key other : String} (different : other ≠ key)
    (value : α) (dict : Dict α) :
    find? other (insert key value dict) = find? other dict := by
  induction dict with
  | nil => simp [insert, Ne.symm different]
  | cons entry rest ih =>
    obtain ⟨first, old⟩ := entry
    simp only [insert]
    split
    · rename_i same
      subst same
      simp [Ne.symm different]
    · split
      · simp [Ne.symm different]
      · simp [ih]

/-! ## The order of keys -/

section

variable {dict target : Dict α} {key other : String}

theorem insert_cons_self (key : String) (value old : α) (rest : Dict α) :
    insert key value ((key, old) :: rest) = (key, value) :: rest := by
  rw [insert, if_pos rfl]

theorem insert_cons_of_lt (less : key < other) (value old : α) (rest : Dict α) :
    insert key value ((other, old) :: rest) = (key, value) :: (other, old) :: rest := by
  rw [insert, if_neg (String.ne_of_lt less).symm, if_pos less]

theorem insert_cons_of_gt (greater : other < key) (value old : α) (rest : Dict α) :
    insert key value ((other, old) :: rest) = (other, old) :: insert key value rest := by
  rw [insert, if_neg (String.ne_of_lt greater), if_neg (String.lt_asymm greater)]

/-- An insertion brings in no entry but its own. -/
theorem of_mem_insert
    {value : α}
    {entry : String × α}
    (member : entry ∈ insert key value dict) :
    entry = (key, value) ∨ entry ∈ dict := by
  induction dict with
  | nil => exact .inl (List.mem_singleton.mp member)
  | cons first rest inductionHypothesis =>
    obtain ⟨other, old⟩ := first
    rcases Std.lt_trichotomy key other with less | rfl | greater
    · rw [insert_cons_of_lt less] at member
      exact List.mem_cons.mp member
    · rw [insert_cons_self] at member
      exact (List.mem_cons.mp member).imp_right (List.mem_cons_of_mem _)
    · rw [insert_cons_of_gt greater] at member
      rcases List.mem_cons.mp member with rfl | member
      · exact .inr List.mem_cons_self
      · exact (inductionHypothesis member).imp_right (List.mem_cons_of_mem _)

theorem Sorted.insert
    (sorted : Sorted dict)
    (key : String)
    (value : α) :
    Sorted (insert key value dict) := by
  induction dict with
  | nil => exact List.pairwise_singleton _ _
  | cons first rest inductionHypothesis =>
    obtain ⟨other, old⟩ := first
    obtain ⟨below, ordered⟩ := List.pairwise_cons.mp sorted
    rcases Std.lt_trichotomy key other with less | rfl | greater
    · rw [insert_cons_of_lt less]
      apply List.pairwise_cons.mpr ⟨?_, sorted⟩
      intro entry member
      rcases List.mem_cons.mp member with rfl | member
      · exact less
      · exact String.lt_trans less (below entry member)
    · rw [insert_cons_self]
      exact List.pairwise_cons.mpr ⟨below, ordered⟩
    · rw [insert_cons_of_gt greater]
      apply List.pairwise_cons.mpr ⟨?_, inductionHypothesis ordered⟩
      intro entry member
      rcases of_mem_insert member with rfl | member
      · exact greater
      · exact below entry member

theorem Sorted.merge (sorted : Sorted target) (source : Dict α) : Sorted (merge target source) := by
  induction source generalizing target with
  | nil => exact sorted
  | cons entry rest inductionHypothesis => exact inductionHypothesis (sorted.insert _ _)

theorem sorted_ofList (entries : List (String × α)) : Sorted (ofList entries) :=
  Sorted.merge .nil entries

end

end Dict

/-- A dictionary whose keys are known to be in order. -/
structure SortedDict (α : Type) where
  entries : Dict α
  sorted : Dict.Sorted entries
deriving Repr

namespace SortedDict

variable {α : Type}

/-- The dictionary without entries. -/
def empty : SortedDict α where
  entries := []
  sorted := .nil

instance : Inhabited (SortedDict α) where
  default := empty

/-- The dictionary of a list of entries; of two entries with one key the later
one counts. -/
def ofList (entries : List (String × α)) : SortedDict α where
  entries := .ofList entries
  sorted := Dict.sorted_ofList entries

instance : Coe (Dict α) (SortedDict α) where
  coe := ofList

/-- Stores a value under a key, replacing any earlier one. -/
def insert (key : String) (value : α) (dict : SortedDict α) : SortedDict α where
  entries := Dict.insert key value dict.entries
  sorted := dict.sorted.insert key value

end SortedDict

end WorkflowEngine
