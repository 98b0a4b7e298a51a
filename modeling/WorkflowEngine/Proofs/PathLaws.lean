import WorkflowEngine.Proofs.Keys
import WorkflowEngine.Proofs.Paths

/-!
# Laws of dotted paths

Reading and writing enter the entry that the segment before the first point names, and go on
with what stands behind the point.  A written value is read back, and a later one at the same
path takes its place.  Where neither of two paths leads to the other one or above it, the
order in which values are written at them does not matter.  Reading at one of them does not
notice what is written at the other, unless it leads through an array that both share.
-/

namespace WorkflowEngine

/-! ## The first point -/

namespace Text

variable {separator : Char} {part : List Char}

theorem splitOn_of_notMem (absent : separator ∉ part) : splitOn separator part = [part] := by
  induction part with
  | nil => rfl
  | cons char rest inductionHypothesis =>
    obtain ⟨different, absent⟩ := not_or.mp (mt List.mem_cons.mpr absent)
    rw [splitOn, if_neg (Ne.symm different), inductionHypothesis absent]

/-- What stands before the first separator is the first part. -/
theorem splitOn_append (absent : separator ∉ part) (rest : List Char) :
    splitOn separator (part ++ separator :: rest) = part :: splitOn separator rest := by
  induction part with
  | nil => rw [List.nil_append, splitOn, if_pos rfl]
  | cons char part inductionHypothesis =>
    obtain ⟨different, absent⟩ := not_or.mp (mt List.mem_cons.mpr absent)
    rw [List.cons_append, splitOn, if_neg (Ne.symm different), inductionHypothesis absent]

end Text

section

variable {key : String} (absent : '.' ∉ key.toList)

include absent

/-- A key without a point is a path of one segment. -/
theorem Path.segments_of_notMem : segments key = [key] := by
  rw [segments, Text.splitOn_of_notMem absent, List.map_singleton, String.ofList_toList]

/-- A key without a point before a point is the first segment. -/
theorem Path.segments_append (rest : String) :
    segments (key ++ "." ++ rest) = key :: segments rest := by
  have pointed : (key ++ "." ++ rest).toList = key.toList ++ '.' :: rest.toList := by simp
  rw [segments, pointed, Text.splitOn_append absent, List.map_cons, String.ofList_toList]
  rfl

namespace Object

theorem lookup_of_notMem (entries : Object) : lookup key entries = Dict.find? key entries := by
  rw [lookup, Path.segments_of_notMem absent]
  exact Option.bind_fun_some _

theorem lookup_append (rest : String) (entries : Object) :
    lookup (key ++ "." ++ rest) entries = (Dict.find? key entries).bind (Json.lookup rest) := by
  rw [lookup, Path.segments_append absent]
  rfl

theorem put_of_notMem (value : Json) (entries : Object) :
    put key value entries = Dict.insert key value entries := by
  rw [put, Path.segments_of_notMem absent, putAt_single]

theorem put_append (rest : String) (value : Json) (entries : Object) :
    put (key ++ "." ++ rest) value entries =
      Dict.insert key (.object (put rest value (below key entries))) entries := by
  obtain ⟨next, more, same⟩ := Path.exists_segments rest
  rw [put, put, Path.segments_append absent, same, putAt_cons_cons]

end Object

end

/-! ## Two values -/

namespace Json

section

variable {path other : List String}

/-- Below a key an object stands after writing, with one entry new or replaced. -/
theorem entriesAt_written (place : Option Json) (key : String) (path : List String) (value : Json) :
    entriesAt (some (written place (key :: path) value)) =
      Dict.insert key (written (Dict.find? key (entriesAt place)) path value) (entriesAt place) :=
  rfl

/-- Of two values that are written at one path the later one stays. -/
theorem written_written (place : Option Json) (path : List String) (value later : Json) :
    written (some (written place path value)) path later = written place path later := by
  induction path generalizing place with
  | nil => rfl
  | cons key rest inductionHypothesis =>
    rw [written, entriesAt_written, Dict.find?_insert_self, inductionHypothesis,
      Dict.insert_insert, written]

/-- Values are written apart from each other in any order. -/
theorem written_comm
    (apart : ¬Overlap path other)
    (place : Option Json)
    (value content : Json) :
    written (some (written place path value)) other content =
      written (some (written place other content)) path value := by
  induction path generalizing place other with
  | nil => exact (apart (.inl List.nil_prefix)).elim
  | cons key path inductionHypothesis =>
    cases other with
    | nil => exact (apart (.inr List.nil_prefix)).elim
    | cons next other =>
      rw [written, entriesAt_written, written, entriesAt_written]
      -- where the keys differ, the two values are stored in one dictionary
      by_cases same : next = key
      · subst same
        have apart' : ¬Overlap path other := fun overlap => apart overlap.cons
        rw [Dict.find?_insert_self, Dict.find?_insert_self, Dict.insert_insert,
          Dict.insert_insert, inductionHypothesis apart']
      · rw [Dict.find?_insert_of_ne same, Dict.find?_insert_of_ne (Ne.symm same),
          Dict.insert_comm same]

/-- What is read apart from a written value stays exactly if there was nothing, or no array
stands on the way that the paths share. -/
theorem follow_written_eq_iff
    (apart : ¬Overlap path other)
    (place : Option Json)
    (value : Json) :
    (written place path value).follow other = place.bind (follow other) ↔
      place.bind (follow other) = none ∨ SharesNoArray place path other := by
  constructor
  · intro kept
    cases held : place.bind (follow other) with
    | none => exact .inl rfl
    | some content => exact .inr (sharesNoArray_of_follow_written apart (kept.trans held))
  · rintro (nothing | free)
    · rw [nothing, Option.eq_none_iff_forall_ne_some]
      intro content found
      cases nothing.symm.trans (follow_of_follow_written apart found)
    · exact follow_written_of_apart apart free

end

end Json

namespace Object

/-- Wherever two paths both lead further, there is an object, if anything. -/
def SharesObjects (entries : Object) (path other : List String) : Prop :=
  ∀ shared, shared <+: path → shared ≠ path → shared <+: other → shared ≠ other →
    ∀ value, (Json.object entries).follow shared = some value → value.isObject

/-- What reading and writing at dotted paths of an object satisfy. -/
structure PathLaws (entries : Object) : Prop where
  /-- A path without a point is the key of an entry. -/
  lookup_key : ∀ key, '.' ∉ key.toList → lookup key entries = Dict.find? key entries
  /-- What stands behind the first point is looked up in the entry that is named before it. -/
  lookup_below : ∀ key rest, '.' ∉ key.toList →
    lookup (key ++ "." ++ rest) entries = (Dict.find? key entries).bind (Json.lookup rest)
  /-- Reading in an object is reading in the value that it is. -/
  lookup_value : ∀ path, lookup path entries = (Json.object entries).lookup path
  /-- At a path without a point an entry is stored. -/
  put_key : ∀ key value, '.' ∉ key.toList → put key value entries = Dict.insert key value entries
  /-- The entry that is named before the first point becomes an object, in which the value is
  written at what stands behind the point. -/
  put_below : ∀ key rest value, '.' ∉ key.toList →
    put (key ++ "." ++ rest) value entries =
      Dict.insert key (.object (put rest value (below key entries))) entries
  /-- A written value is read back. -/
  lookup_put : ∀ path value, lookup path (put path value entries) = some value
  /-- Of two values written at one path the later one stays. -/
  put_put : ∀ path value later, put path later (put path value entries) = put path later entries
  /-- A value written apart from a path is not noticed there if the two share only objects. -/
  lookup_put_apart : ∀ path other value,
    ¬Overlap (Path.segments path) (Path.segments other) →
    entries.SharesObjects (Path.segments path) (Path.segments other) →
      lookup other (put path value entries) = lookup other entries
  /-- A value written apart from a path is noticed there exactly if something was read there
  through an array that the two share. -/
  lookup_put_iff : ∀ path other value,
    ¬Overlap (Path.segments path) (Path.segments other) →
      (lookup other (put path value entries) = lookup other entries ↔
        lookup other entries = none ∨
          SharesNoArray (some (.object entries)) (Path.segments path) (Path.segments other))
  /-- Values are written apart from each other in any order. -/
  put_comm : ∀ path other value content,
    ¬Overlap (Path.segments path) (Path.segments other) →
      put other content (put path value entries) = put path value (put other content entries)

/-- Paths that part in an object share no array on their way. -/
theorem SharesObjects.sharesNoArray
    {entries : Object}
    {path other : List String}
    (objects : entries.SharesObjects path other)
    (apart : ¬Overlap path other) :
    SharesNoArray (some (.object entries)) path other := by
  intro shared leads leads' items found
  have short : shared ≠ path := by
    rintro rfl
    exact apart (.inl leads')
  have short' : shared ≠ other := by
    rintro rfl
    exact apart (.inr leads)
  cases objects shared leads short leads' short' _ found

section

variable {path other : String}

/-- Of two values written at one path the later one stays. -/
theorem put_put (path : String) (value later : Json) (entries : Object) :
    put path later (put path value entries) = put path later entries := by
  apply Json.object.inj
  rw [Json.object_put, Json.object_put, Json.object_put, Json.written_written]

/-- Values are written in any order at paths of which none leads to the other. -/
theorem put_comm
    (apart : ¬Overlap (Path.segments path) (Path.segments other))
    (value content : Json)
    (entries : Object) :
    put other content (put path value entries) = put path value (put other content entries) := by
  apply Json.object.inj
  rw [Json.object_put, Json.object_put, Json.object_put, Json.object_put,
    Json.written_comm apart]

theorem lookup_put_eq (path other : String) (value : Json) (entries : Object) :
    lookup other (put path value entries) =
      (Json.written (some (.object entries)) (Path.segments path) value).follow
        (Path.segments other) := by
  rw [lookup_eq, Json.lookup, Json.object_put]

/-- A path apart from the one that was written reads as before, unless it led through an
array that both share. -/
theorem lookup_put_eq_iff
    (apart : ¬Overlap (Path.segments path) (Path.segments other))
    (value : Json)
    (entries : Object) :
    lookup other (put path value entries) = lookup other entries ↔
      lookup other entries = none ∨
        SharesNoArray (some (.object entries)) (Path.segments path) (Path.segments other) := by
  rw [lookup_put_eq, lookup_eq]
  exact Json.follow_written_eq_iff apart _ _

/-- Reading and writing at dotted paths obey their laws in every object. -/
theorem dotted_paths_lawful (entries : Object) : entries.PathLaws where
  lookup_key _ absent := lookup_of_notMem absent entries
  lookup_below _ rest absent := lookup_append absent rest entries
  lookup_value path := lookup_eq path entries
  put_key _ value absent := put_of_notMem absent value entries
  put_below _ rest value absent := put_append absent rest value entries
  lookup_put path value := by rw [lookup_put_eq, Json.follow_written_self]
  put_put path value later := put_put path value later entries
  lookup_put_apart path other value apart objects :=
    (lookup_put_eq_iff apart value entries).mpr (.inr (objects.sharesNoArray apart))
  lookup_put_iff path other value apart := lookup_put_eq_iff apart value entries
  put_comm path other value content apart := put_comm apart value content entries

end

/-- An object with a key that is empty and one that is a number. -/
def delivery : Object :=
  [("", .object [("0", .array [.ofInt 10, .ofInt 20]), ("qty", .ofInt 5)]),
    ("note", .text "fragile")]

/-- The two paths share the entry under the empty key and part in the object that it holds. -/
theorem dotted_paths_lawful_delivery :
    ¬Overlap (Path.segments ".0.1") (Path.segments ".qty") ∧
      delivery.SharesObjects (Path.segments ".0.1") (Path.segments ".qty") ∧
      lookup ".qty" (put ".0.1" .null delivery) = some (.ofInt 5) ∧
      put ".qty" (.bool true) (put ".0.1" .null delivery) =
        put ".0.1" .null (put ".qty" (.bool true) delivery) := by
  have laws := dotted_paths_lawful delivery
  have apart : ¬Overlap (Path.segments ".0.1") (Path.segments ".qty") := by
    unfold Overlap
    decide
  have objects : delivery.SharesObjects (Path.segments ".0.1") (Path.segments ".qty") := by
    rintro (_ | ⟨first, _ | ⟨second, shared⟩⟩) leads - leads' - value found
    · cases found
      rfl
    · obtain ⟨rfl, -⟩ := List.cons_prefix_cons.mp leads
      cases found
      rfl
    · obtain ⟨-, leads⟩ := List.cons_prefix_cons.mp leads
      obtain ⟨-, leads'⟩ := List.cons_prefix_cons.mp leads'
      obtain ⟨rfl, -⟩ := List.cons_prefix_cons.mp leads
      cases (List.cons_prefix_cons.mp leads').1
  exact ⟨apart, objects, laws.lookup_put_apart _ _ _ apart objects, laws.put_comm _ _ _ _ apart⟩

/-- An array on the shared way is replaced, and what it held is gone. -/
example : lookup ".0.0" delivery = some (.ofInt 10) ∧
    lookup ".0.0" (put ".0.1" .null delivery) = none :=
  ⟨rfl, rfl⟩

end Object
end WorkflowEngine
