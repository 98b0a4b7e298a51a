import WorkflowEngine.Path

/-!
# Reading behind writing

Writing at a path makes an object of whatever stands on the way, so the value is read back
there.  What is read at a path that does not overlap with the written one stays, unless it is
read through an array on the way that the two share: that array is gone.
-/

namespace WorkflowEngine

/-- A path has a first segment. -/
theorem Path.exists_segments (path : String) : ∃ key rest, segments path = key :: rest := by
  obtain ⟨part, parts, same⟩ := List.exists_cons_of_ne_nil (Text.splitOn_ne_nil '.' path.toList)
  exact ⟨String.ofList part, parts.map String.ofList, by rw [segments, same]; rfl⟩

/-- Reading in an object is reading in the object as a value. -/
theorem Object.lookup_eq (path : String) (entries : Object) :
    Object.lookup path entries = (Json.object entries).lookup path := by
  obtain ⟨key, rest, same⟩ := Path.exists_segments path
  rw [lookup, Json.lookup, same, follow_eq]

namespace Json

theorem follow_cons_of_step?
    {item value : Json}
    {key : String}
    (entered : item.step? key = some value)
    (place : List String) :
    item.follow (key :: place) = value.follow place := by
  rw [follow_cons, entered]
  rfl

theorem follow_append (first second : List String) (item : Json) :
    item.follow (first ++ second) = (item.follow first).bind (follow second) := by
  induction first generalizing item with
  | nil => rfl
  | cons key rest inductionHypothesis =>
    rw [List.cons_append, follow_cons, follow_cons]
    cases item.step? key with
    | none => rfl
    | some value => exact inductionHypothesis value

/-! ## Writing below a place -/

/-- The entries of an object; where there is no object, there are none. -/
def entriesAt (place : Option Json) : Object := (place.bind entries?).getD []

/-- What stands at a place after a value was written at a path below it. -/
def written (place : Option Json) : List String → Json → Json
  | [], value => value
  | key :: rest, value =>
    .object (Dict.insert key (written (Dict.find? key (entriesAt place)) rest value)
      (entriesAt place))

theorem written_congr
    {first second : Option Json}
    (same : entriesAt first = entriesAt second)
    (key : String)
    (rest : List String)
    (value : Json) :
    written first (key :: rest) value = written second (key :: rest) value := by
  unfold written
  rw [same]

/-- Writing at a path below an object. -/
theorem object_putAt (key : String) (rest : List String) (value : Json) (entries : Object) :
    .object (Object.putAt (key :: rest) value entries) =
      written (some (.object entries)) (key :: rest) value := by
  induction rest generalizing key entries with
  | nil => rfl
  | cons next rest inductionHypothesis =>
    have below : entriesAt (some (.object (Object.below key entries))) =
        entriesAt (Dict.find? key entries) := by
      unfold Object.below
      cases Dict.find? key entries with
      | none => rfl
      | some value => cases value <;> rfl
    rw [Object.putAt_cons_cons, inductionHypothesis, written_congr below]
    rfl

/-- A value that is put into an object is written there. -/
theorem object_put (path : String) (value : Json) (entries : Object) :
    .object (Object.put path value entries) =
      written (some (.object entries)) (Path.segments path) value := by
  obtain ⟨key, rest, same⟩ := Path.exists_segments path
  rw [Object.put, same, object_putAt]

/-- What is read in the entries at a place is read at the place. -/
theorem follow_of_entriesAt
    {place : Option Json}
    {key : String}
    {rest : List String}
    {value : Json}
    (found : (Dict.find? key (entriesAt place)).bind (follow rest) = some value) :
    place.bind (follow (key :: rest)) = some value := by
  match place with
  | some (.object entries) => exact found
  | none | some .null | some (.bool _) | some (.number _) | some (.text _) | some (.array _) =>
    cases found

/-- Where no array stands, everything is read in the entries. -/
theorem follow_eq_entriesAt
    {place : Option Json}
    (free : ∀ items, place ≠ some (.array items))
    (key : String)
    (rest : List String) :
    place.bind (follow (key :: rest)) = (Dict.find? key (entriesAt place)).bind (follow rest) := by
  match place with
  | some (.object entries) => rfl
  | none | some .null | some (.bool _) | some (.number _) | some (.text _) => rfl
  | some (.array items) => exact (free items rfl).elim

end Json

/-- One of two paths leads to the other one or above it. -/
def Overlap (first second : List String) : Prop := first <+: second ∨ second <+: first

/-- No array stands on the way that two paths share. -/
def SharesNoArray (place : Option Json) (first second : List String) : Prop :=
  ∀ shared, shared <+: first → shared <+: second →
    ∀ items, place.bind (Json.follow shared) ≠ some (.array items)

section

variable
  {place : Option Json}
  {path other later : List String}
  {key : String}
  {value content : Json}

theorem Overlap.symm (overlap : Overlap path other) : Overlap other path := Or.symm overlap

theorem Overlap.cons (overlap : Overlap path other) : Overlap (key :: path) (key :: other) :=
  overlap.imp (List.cons_prefix_cons.mpr ⟨rfl, ·⟩) (List.cons_prefix_cons.mpr ⟨rfl, ·⟩)

theorem SharesNoArray.cons
    (free : SharesNoArray place (key :: path) (key :: other)) :
    SharesNoArray (Dict.find? key (Json.entriesAt place)) path other := by
  intro shared leads leads' items found
  exact free (key :: shared) (List.cons_prefix_cons.mpr ⟨rfl, leads⟩)
    (List.cons_prefix_cons.mpr ⟨rfl, leads'⟩) items (Json.follow_of_entriesAt found)

namespace Json

theorem step?_written_self
    (place : Option Json)
    (key : String)
    (path : List String)
    (value : Json) :
    (written place (key :: path) value).step? key =
      some (written (Dict.find? key (entriesAt place)) path value) :=
  Dict.find?_insert_self _ _ _

theorem step?_written_of_ne
    {next : String}
    (different : next ≠ key)
    (place : Option Json)
    (path : List String)
    (value : Json) :
    (written place (key :: path) value).step? next = Dict.find? next (entriesAt place) :=
  Dict.find?_insert_of_ne different _ _

/-- Below a written value stands what the value holds. -/
theorem follow_written_append
    (place : Option Json)
    (path rest : List String)
    (value : Json) :
    (written place path value).follow (path ++ rest) = value.follow rest := by
  induction path generalizing place with
  | nil => rfl
  | cons key path inductionHypothesis =>
    rw [List.cons_append, follow_cons_of_step? (step?_written_self _ _ _ _)]
    exact inductionHypothesis _

theorem follow_written_self (place : Option Json) (path : List String) (value : Json) :
    (written place path value).follow path = some value := by
  simpa using follow_written_append place path [] value

/-- Objects stand on the way to a written value. -/
theorem exists_object_above
    (place : Option Json)
    (path : List String)
    (key : String)
    (rest : List String)
    (value : Json) :
    ∃ entries, (written place (path ++ key :: rest) value).follow path =
      some (.object entries) := by
  induction path generalizing place with
  | nil => exact ⟨_, rfl⟩
  | cons first path inductionHypothesis =>
    rw [List.cons_append, follow_cons_of_step? (step?_written_self _ _ _ _)]
    exact inductionHypothesis _

/-- What is read apart from a written value was there before. -/
theorem follow_of_follow_written
    (apart : ¬Overlap path other)
    (found : (written place path value).follow other = some content) :
    place.bind (follow other) = some content := by
  induction path generalizing place other with
  | nil => exact (apart (.inl List.nil_prefix)).elim
  | cons key path inductionHypothesis =>
    cases other with
    | nil => exact (apart (.inr List.nil_prefix)).elim
    | cons next other =>
      rw [follow_cons] at found
      by_cases same : next = key
      · subst same
        rw [step?_written_self] at found
        exact follow_of_entriesAt (inductionHypothesis (fun overlap => apart overlap.cons) found)
      · rw [step?_written_of_ne same] at found
        exact follow_of_entriesAt found

/-- What was there apart from a written value is still read, unless through an array. -/
theorem follow_written_of_apart
    (apart : ¬Overlap path other)
    (free : SharesNoArray place path other) :
    (written place path value).follow other = place.bind (follow other) := by
  induction path generalizing place other with
  | nil => exact (apart (.inl List.nil_prefix)).elim
  | cons key path inductionHypothesis =>
    cases other with
    | nil => exact (apart (.inr List.nil_prefix)).elim
    | cons next other =>
      have free' : ∀ items, place ≠ some (.array items) := fun items stands =>
        free [] List.nil_prefix List.nil_prefix items (by rw [stands]; rfl)
      rw [follow_cons, follow_eq_entriesAt free']
      by_cases same : next = key
      · subst same
        rw [step?_written_self]
        exact inductionHypothesis (fun overlap => apart overlap.cons) free.cons
      · rw [step?_written_of_ne same]

/-- Nothing is read any more through an array that was on the way to a written value. -/
theorem sharesNoArray_of_follow_written
    (apart : ¬Overlap path other)
    (found : (written place path value).follow other = some content) :
    SharesNoArray place path other := by
  induction path generalizing place other with
  | nil => exact (apart (.inl List.nil_prefix)).elim
  | cons key path inductionHypothesis =>
    cases other with
    | nil => exact (apart (.inr List.nil_prefix)).elim
    | cons next other =>
      have free : ∀ items, place ≠ some (.array items) := by
        rintro items rfl
        have emptied : (none : Option Json).bind (follow (next :: other)) = some content :=
          follow_of_follow_written apart found
        cases emptied
      rintro (_ | ⟨first, shared⟩) leads leads' items stands
      · exact free items (by cases place <;> exact stands)
      · obtain ⟨rfl, below⟩ := List.cons_prefix_cons.mp leads
        obtain ⟨rfl, below'⟩ := List.cons_prefix_cons.mp leads'
        rw [follow_cons, step?_written_self] at found
        rw [follow_eq_entriesAt free] at stands
        exact inductionHypothesis (fun overlap => apart overlap.cons) found shared below below'
          items stands

end Json

/-- No array comes up on the way to a path when a value is written apart from it. -/
theorem SharesNoArray.of_written
    (apart : ¬Overlap path other)
    (free : SharesNoArray place later other) :
    SharesNoArray (some (Json.written place path value)) later other := by
  intro shared leads leads' items found
  refine free shared leads leads' items (Json.follow_of_follow_written ?_ found)
  rintro (above | ⟨rest, rfl⟩)
  · exact apart (.inl (above.trans leads'))
  · cases rest with
    | nil => exact apart (.inl (by simpa using leads'))
    | cons key rest =>
      obtain ⟨entries, object⟩ := Json.exists_object_above place shared key rest value
      cases object.symm.trans found

/-- No array on the way to a path is replaced but where it is on the way to the written one. -/
theorem SharesNoArray.of_of_written
    (apart : ¬Overlap path other)
    (here : SharesNoArray place path other)
    (free : SharesNoArray (some (Json.written place path value)) later other) :
    SharesNoArray place later other := by
  intro shared leads leads' items found
  refine free shared leads leads' items ?_
  have outside : ¬Overlap path shared := by
    rintro (above | below)
    · exact apart (.inl (above.trans leads'))
    · exact here shared below leads' items found
  exact (Json.follow_written_of_apart outside fun common above below =>
    here common above (below.trans leads')).trans found

/-- No array stands on the way to a written value. -/
theorem sharesNoArray_written
    (place : Option Json)
    (apart : ¬Overlap path other)
    (value : Json) :
    SharesNoArray (some (Json.written place path value)) other path := by
  rintro shared leads ⟨rest, rfl⟩ items found
  cases rest with
  | nil => exact apart (.inl (by simpa using leads))
  | cons key rest =>
    obtain ⟨entries, object⟩ := Json.exists_object_above place shared key rest value
    cases object.symm.trans found

end

/-! ## Several values -/

/-- A path, and a value that is written there. -/
abbrev PathWrite := List String × Json

/-- What stands at a place after values were written at paths below it. -/
def standing (place : Option Json) (writes : List PathWrite) : Option Json :=
  writes.foldl (fun place write => some (Json.written place write.1 write.2)) place

@[simp] theorem standing_cons (place : Option Json) (write : PathWrite) (rest : List PathWrite) :
    standing place (write :: rest) = standing (some (Json.written place write.1 write.2)) rest :=
  rfl

theorem standing_append (place : Option Json) (first second : List PathWrite) :
    standing place (first ++ second) = standing (standing place first) second :=
  List.foldl_append

/-- None of the paths overlaps with a later one. -/
def PathsApart (writes : List PathWrite) : Prop :=
  writes.Pairwise fun first second => ¬Overlap first.1 second.1

/-- A value that is read at a path is one written there or above, or a part of it, or an
object on the way to one. -/
inductive ComesFrom : PathWrite → List String → Json → Prop
  | within
      {path rest : List String}
      {value content : Json}
      (found : value.follow rest = some content) :
      ComesFrom (path, value) (path ++ rest) content
  | above
      {path rest : List String}
      {key : String}
      {value : Json}
      {entries : Object} :
      ComesFrom (path ++ key :: rest, value) path (.object entries)

section

variable
  {place : Option Json}
  {writes : List PathWrite}
  {write : PathWrite}
  {path : List String}
  {value content : Json}

theorem ComesFrom.overlap (source : ComesFrom write path content) : Overlap write.1 path := by
  cases source with
  | within => exact .inl (List.prefix_append _ _)
  | above => exact .inr (List.prefix_append _ _)

/-- Of written values, one that overlaps with a path tells what is read there. -/
theorem comesFrom_of_overlap
    (overlap : Overlap write.1 path)
    (found : (Json.written place write.1 write.2).follow path = some content) :
    ComesFrom write path content := by
  obtain ⟨whole, value⟩ := write
  rcases overlap with ⟨rest, rfl⟩ | ⟨rest, rfl⟩
  · rw [Json.follow_written_append] at found
    exact .within found
  · cases rest with
    | nil =>
      rw [List.append_nil, Json.follow_written_self] at found
      have whole : ComesFrom (path, value) (path ++ []) content := .within found
      rwa [List.append_nil] at whole ⊢
    | cons key rest =>
      obtain ⟨entries, object⟩ := Json.exists_object_above place path key rest value
      cases object.symm.trans found
      exact .above

/-- Whatever is read comes from what was written, or it was there before. -/
theorem exists_comesFrom
    (found : (standing place writes).bind (Json.follow path) = some content) :
    place.bind (Json.follow path) = some content ∨
      ∃ write ∈ writes, ComesFrom write path content := by
  induction writes generalizing place with
  | nil => exact .inl found
  | cons write rest inductionHypothesis =>
    rcases inductionHypothesis found with found | ⟨later, member, source⟩
    · by_cases overlap : Overlap write.1 path
      · exact .inr ⟨write, List.mem_cons_self, comesFrom_of_overlap overlap found⟩
      · exact .inl (Json.follow_of_follow_written overlap found)
    · exact .inr ⟨later, List.mem_cons_of_mem _ member, source⟩

/-- What is read apart from all written values stays, unless through an array. -/
theorem follow_standing_of_apart
    (apart : ∀ write ∈ writes, ¬Overlap write.1 path)
    (free : ∀ write ∈ writes, SharesNoArray place write.1 path) :
    (standing place writes).bind (Json.follow path) = place.bind (Json.follow path) := by
  induction writes generalizing place with
  | nil => rfl
  | cons write rest inductionHypothesis =>
    obtain ⟨first, apart⟩ := List.forall_mem_cons.mp apart
    obtain ⟨here, free⟩ := List.forall_mem_cons.mp free
    rw [standing_cons, inductionHypothesis apart fun later member =>
      (free later member).of_written first]
    exact Json.follow_written_of_apart first here

/-- Apart from all written values, exactly that is read which was read before, and not through
an array on the way to one of them. -/
theorem follow_standing_eq_some_iff
    (apart : ∀ write ∈ writes, ¬Overlap write.1 path)
    (place : Option Json)
    (content : Json) :
    (standing place writes).bind (Json.follow path) = some content ↔
      place.bind (Json.follow path) = some content ∧
        ∀ write ∈ writes, SharesNoArray place write.1 path := by
  refine ⟨fun found => ?_, fun ⟨found, free⟩ =>
    (follow_standing_of_apart apart free).trans found⟩
  induction writes generalizing place with
  | nil => exact ⟨found, nofun⟩
  | cons write rest inductionHypothesis =>
    obtain ⟨first, apart⟩ := List.forall_mem_cons.mp apart
    obtain ⟨held, free⟩ := inductionHypothesis apart _ found
    have here : SharesNoArray place write.1 path := Json.sharesNoArray_of_follow_written first held
    exact ⟨Json.follow_of_follow_written first held, List.forall_mem_cons.mpr
      ⟨here, fun later member => here.of_of_written first (free later member)⟩⟩

/-- A value that is written apart from the others stands. -/
theorem follow_standing_of_mem
    (apart : PathsApart writes)
    (member : (path, value) ∈ writes)
    (place : Option Json) :
    (standing place writes).bind (Json.follow path) = some value := by
  induction writes generalizing place with
  | nil => cases member
  | cons write rest inductionHypothesis =>
    obtain ⟨first, apart⟩ := List.pairwise_cons.mp apart
    rcases List.mem_cons.mp member with rfl | member
    · rw [standing_cons, follow_standing_of_apart]
      · exact Json.follow_written_self _ _ _
      · exact fun later member overlap => first later member overlap.symm
      · exact fun later member => sharesNoArray_written place (first later member) value
    · exact inductionHypothesis apart member _

end

end WorkflowEngine
