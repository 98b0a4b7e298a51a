import Mathlib.Data.List.Forall2
import WorkflowEngine.Action.Transform
import WorkflowEngine.Proofs.Paths
import WorkflowEngine.Proofs.Readers
import WorkflowEngine.Proofs.Registry

/-!
# Picking fields

The listed paths of an item are read in the item and written, one after the other, into an
empty object.  Reading enters arrays and writing replaces them.  A path reads back what it
held unless an array on the way to it, or at or inside the value there, is written whole and
then entered.
-/

namespace WorkflowEngine

/-- Dictionaries with the same values under all keys are the same. -/
theorem Dict.Sorted.ext
    {α : Type}
    {first second : Dict α}
    (sorted : Sorted first)
    (sorted' : Sorted second)
    (same : ∀ key, find? key first = find? key second) :
    first = second := by
  have members (entry : String × α) : entry ∈ first ↔ entry ∈ second := by
    obtain ⟨key, value⟩ := entry
    rw [← find?_eq_some_iff sorted.nodup_keys, ← find?_eq_some_iff sorted'.nodup_keys, same]
  refine ((List.perm_ext_iff_of_nodup (sorted.nodup_keys.of_map _)
    (sorted'.nodup_keys.of_map _)).mpr members).eq_of_pairwise ?_ sorted sorted'
  intro _ _ _ _ less greater
  exact (less.asymm greater).elim

/-! ## Values in order -/

/-- A value with the keys of all objects in it in order, like everything that is read from a
document. -/
structure OrderlyJson where
  value : Json
  orderly : value.IsOrderly

namespace Json

variable {item value : Json} {place : Option Json} {key : String}

/-- Items are in order if each of them is. -/
theorem areOrderly_iff {items : List Json} :
    AreOrderly items ↔ ∀ item ∈ items, item.IsOrderly := by
  induction items with
  | nil => simp [AreOrderly]
  | cons item rest inductionHypothesis => simp [AreOrderly, inductionHypothesis]

/-- What stands at a key of a value in order is in order. -/
theorem isOrderly_of_step? (orderly : item.IsOrderly) (entered : item.step? key = some value) :
    value.IsOrderly := by
  cases item with
  | null | bool | number | text => cases entered
  | array items =>
    obtain ⟨index, -, found⟩ := Option.bind_eq_some_iff.mp entered
    exact areOrderly_iff.mp orderly value (List.mem_of_getElem? found)
  | object entries =>
    exact hasOrderly_iff.mp orderly.2 (key, value)
      ((Dict.find?_eq_some_iff orderly.1.nodup_keys).mp entered)

/-- What stands at a path of a value in order is in order. -/
theorem isOrderly_of_follow
    {path : List String}
    (orderly : item.IsOrderly)
    (found : item.follow path = some value) :
    value.IsOrderly := by
  induction path generalizing item with
  | nil =>
    obtain rfl := Option.some.inj found
    exact orderly
  | cons key rest inductionHypothesis =>
    obtain ⟨child, entered, found⟩ := Option.bind_eq_some_iff.mp found
    exact inductionHypothesis (isOrderly_of_step? orderly entered) found

/-- The object that is written into is in order if what stood there was. -/
theorem isOrderly_entriesAt (orderly : ∀ value ∈ place, value.IsOrderly) :
    IsOrderly (.object (entriesAt place)) := by
  match place, orderly with
  | some (.object entries), orderly => exact orderly _ rfl
  | some (.array _), _ | some (.text _), _ | some (.number _), _ | some (.bool _), _
  | some .null, _ | none, _ => exact ⟨.nil, trivial⟩

/-- Whatever stands at a place, a value in order leaves it in order. -/
theorem isOrderly_written
    (stood : ∀ value ∈ place, value.IsOrderly)
    (path : List String)
    (orderly : value.IsOrderly) :
    (written place path value).IsOrderly := by
  induction path generalizing place with
  | nil => exact orderly
  | cons key rest inductionHypothesis =>
    have around := isOrderly_entriesAt stood
    have inside := inductionHypothesis fun child (held : Dict.find? key _ = some child) =>
      isOrderly_of_step? around held
    refine ⟨around.1.insert _ _, hasOrderly_iff.mpr fun entry member => ?_⟩
    rcases Dict.of_mem_insert member with rfl | member
    · exact inside
    · exact hasOrderly_iff.mp around.2 entry member

end Json

/-- Values in order that are written, one after another, leave a value in order. -/
theorem isOrderly_standing
    {place : Option Json}
    {writes : List PathWrite}
    (stood : ∀ value ∈ place, value.IsOrderly)
    (orderly : ∀ write ∈ writes, write.2.IsOrderly) :
    ∀ value ∈ standing place writes, value.IsOrderly := by
  induction writes generalizing place with
  | nil => exact stood
  | cons write rest inductionHypothesis =>
    obtain ⟨first, others⟩ := List.forall_mem_cons.mp orderly
    apply inductionHypothesis _ others
    rintro _ ⟨⟩
    exact Json.isOrderly_written stood write.1 first

/-! ## Writing below a place -/

/-- The rest of a path behind its first segment. -/
def rest? (key : String) : List String → Option (List String)
  | [] => none
  | first :: rest => if first = key then some rest else none

/-- What is written below a key. -/
def beneath (key : String) (writes : List PathWrite) : List PathWrite :=
  writes.filterMap fun write => (rest? key write.1).map fun path => (path, write.2)

theorem rest?_eq_some_iff {key : String} {path rest : List String} :
    rest? key path = some rest ↔ path = key :: rest := by
  cases path with
  | nil => simp [rest?]
  | cons first rest => simp [rest?]

/-- What is written below a key is written at paths through that key. -/
theorem mem_beneath {key : String} {writes : List PathWrite} {path : List String} {value : Json} :
    (path, value) ∈ beneath key writes ↔ (key :: path, value) ∈ writes := by
  unfold beneath
  rw [List.mem_filterMap]
  constructor
  · rintro ⟨⟨whole, content⟩, member, found⟩
    obtain ⟨rest, found, same⟩ := Option.map_eq_some_iff.mp found
    obtain rfl := rest?_eq_some_iff.mp found
    cases same
    exact member
  · intro member
    exact ⟨_, member, by rw [rest?_eq_some_iff.mpr rfl]; rfl⟩

/-- The paths below a key are told from the paths alone. -/
theorem map_fst_beneath (key : String) (writes : List PathWrite) :
    (beneath key writes).map Prod.fst = (writes.map Prod.fst).filterMap (rest? key) := by
  unfold beneath
  rw [List.map_filterMap, List.filterMap_map]
  congr 1
  funext write
  simp [Option.map_map, Function.comp_def]

section

variable {writes : List PathWrite}

/-- Values written below an object leave an object, and under each of its keys what is
written below the key. -/
theorem exists_standing_object
    (entries : Object)
    (inside : ∀ write ∈ writes, write.1 ≠ []) :
    ∃ result : Object, standing (some (.object entries)) writes = some (.object result) ∧
      (Dict.Sorted entries → Dict.Sorted result) ∧
      ∀ key, Dict.find? key result = standing (Dict.find? key entries) (beneath key writes) := by
  induction writes generalizing entries with
  | nil => exact ⟨entries, rfl, id, fun _ => rfl⟩
  | cons write rest inductionHypothesis =>
    obtain ⟨⟨⟩ | ⟨key, path⟩, value⟩ := write
    · exact (inside _ List.mem_cons_self rfl).elim
    let below := Json.written (Dict.find? key entries) path value
    obtain ⟨result, stands, sorted, found⟩ := inductionHypothesis (Dict.insert key below entries)
      fun write member => inside write (List.mem_cons_of_mem _ member)
    refine ⟨result, stands, fun ordered => sorted (ordered.insert _ _), fun other => ?_⟩
    rw [found]
    by_cases same : other = key
    · subst same
      have first : beneath other ((other :: path, value) :: rest) =
          (path, value) :: beneath other rest :=
        List.filterMap_cons_some (by simp [rest?])
      rw [first, Dict.find?_insert_self]
      rfl
    · have first : beneath other ((key :: path, value) :: rest) = beneath other rest :=
        List.filterMap_cons_none (by simp [rest?, Ne.symm same])
      rw [first, Dict.find?_insert_of_ne same]

/-- Where values are written below it, a place becomes an object. -/
theorem standing_eq
    (place : Option Json)
    (some : writes ≠ [])
    (inside : ∀ write ∈ writes, write.1 ≠ []) :
    standing place writes = standing (.some (.object (Json.entriesAt place))) writes := by
  obtain ⟨⟨⟨⟩ | ⟨key, path⟩, value⟩, rest, rfl⟩ := List.exists_cons_of_ne_nil some
  · exact (inside _ List.mem_cons_self rfl).elim
  · rfl

/-- What is read through a key after all has been written depends on what is written below
that key. -/
theorem standing_follow
    {key : String}
    {rest : List String}
    (place : Option Json)
    (some : writes ≠ [])
    (inside : ∀ write ∈ writes, write.1 ≠ []) :
    (standing place writes).bind (Json.follow (key :: rest)) =
      (standing (Dict.find? key (Json.entriesAt place)) (beneath key writes)).bind
        (Json.follow rest) := by
  obtain ⟨result, stands, -, found⟩ := exists_standing_object (Json.entriesAt place) inside
  rw [standing_eq place some inside, stands, ← found]
  rfl

/-- The last value that is written at a place itself. -/
theorem exists_last_whole
    (whole : ∃ write ∈ writes, write.1 = []) :
    ∃ before value after, writes = before ++ ([], value) :: after ∧
      ∀ write ∈ after, write.1 ≠ [] := by
  induction writes with
  | nil => simp at whole
  | cons write rest inductionHypothesis =>
    by_cases later : ∃ write ∈ rest, write.1 = []
    · obtain ⟨before, value, after, rfl, inside⟩ := inductionHypothesis later
      exact ⟨write :: before, value, after, rfl, inside⟩
    · obtain ⟨path, value⟩ := write
      have first : path = [] := by
        obtain ⟨other, member, same⟩ := whole
        rcases List.mem_cons.mp member with rfl | member
        · exact same
        · exact (later ⟨other, member, same⟩).elim
      subst first
      exact ⟨[], value, rest, rfl, fun other member same => later ⟨other, member, same⟩⟩

end

/-! ## Spoilt paths -/

/-- Some paths lead into a place, none of them to it or above it or above a given path. -/
structure EnteredBy (paths : List (List String)) (path place : List String) : Prop where
  inside : ∀ later ∈ paths, ¬later <+: place ∧ ¬later <+: path
  enters : ∃ later ∈ paths, place <+: later

/-- An array stands on the way to a path, or at it, or inside the value there.  Of some paths
the last one that leads to either of the two or above it leads to the array or above it, and
a later one leads into the array. -/
structure SpoiltAt
    (item : Json)
    (paths : List (List String))
    (path place : List String) : Prop where
  overlap : Overlap path place
  array : ∃ items, item.follow place = some (.array items)
  entered : ∃ before cover after, paths = before ++ cover :: after ∧ cover <+: place ∧
    EnteredBy after path place

section

variable
  {item value : Json}
  {paths : List (List String)}
  {path shorter place : List String}
  {key : String}

theorem mem_filterMap_rest? {rest : List String} :
    rest ∈ paths.filterMap (rest? key) ↔ key :: rest ∈ paths := by
  simp [List.mem_filterMap, rest?_eq_some_iff]

/-- What is entered below a key is entered. -/
theorem EnteredBy.cons
    (entered : EnteredBy (paths.filterMap (rest? key)) path place)
    (inside : [] ∉ paths) :
    EnteredBy paths (key :: path) (key :: place) := by
  have lift {place : List String} (last : ∀ later ∈ paths.filterMap (rest? key), ¬later <+: place) :
      ∀ later ∈ paths, ¬later <+: key :: place := by
    rintro (_ | ⟨first, rest⟩) member leads
    · exact inside member
    · obtain ⟨rfl, below⟩ := List.cons_prefix_cons.mp leads
      exact last rest (mem_filterMap_rest?.mpr member) below
  refine ⟨fun later member =>
    ⟨lift (fun later member => (entered.inside later member).1) later member,
      lift (fun later member => (entered.inside later member).2) later member⟩, ?_⟩
  obtain ⟨later, member, leads⟩ := entered.enters
  exact ⟨key :: later, mem_filterMap_rest?.mp member, List.cons_prefix_cons.mpr ⟨rfl, leads⟩⟩

namespace SpoiltAt

/-- Whatever was written before changes nothing about what is spoilt. -/
theorem append_left
    (spoilt : SpoiltAt item paths path place)
    (front : List (List String)) :
    SpoiltAt item (front ++ paths) path place := by
  obtain ⟨overlap, array, before, cover, after, rfl, rest⟩ := spoilt
  exact ⟨overlap, array, front ++ before, cover, after, (List.append_assoc _ _ _).symm, rest⟩

/-- A value that holds a spoilt one is spoilt. -/
theorem of_longer
    (spoilt : SpoiltAt item paths path place)
    (above : shorter <+: path) :
    SpoiltAt item paths shorter place := by
  obtain ⟨overlap, array, before, cover, after, split, covers, entered⟩ := spoilt
  refine ⟨?_, array, before, cover, after, split, covers, fun later member =>
    (entered.inside later member).imp_right fun outside leads => outside (leads.trans above),
    entered.enters⟩
  rcases overlap with outside | inside
  · exact .inl (above.trans outside)
  · exact List.prefix_or_prefix_of_prefix above inside

/-- What is spoilt below a key is spoilt. -/
theorem of_beneath
    (found : item.step? key = some value)
    (inside : [] ∉ paths)
    (spoilt : SpoiltAt value (paths.filterMap (rest? key)) path place) :
    SpoiltAt item paths (key :: path) (key :: place) := by
  obtain ⟨overlap, array, before, cover, after, split, covers, entered⟩ := spoilt
  obtain ⟨front, back, rfl, rfl, ends⟩ := List.filterMap_eq_append_iff.mp split
  obtain ⟨middle, whole, rest, rfl, -, same, rfl⟩ := List.filterMap_eq_cons_iff.mp ends
  obtain rfl := rest?_eq_some_iff.mp same
  exact ⟨overlap.cons, by rwa [Json.follow_cons_of_step? found], front ++ middle, key :: cover,
    rest, by simp, List.cons_prefix_cons.mpr ⟨rfl, covers⟩,
    entered.cons fun member => inside (by simp [member])⟩

/-- The same where the place itself was written before. -/
theorem of_beneath_whole
    (found : item.step? key = some value)
    (inside : [] ∉ paths)
    (spoilt : SpoiltAt value ([] :: paths.filterMap (rest? key)) path place) :
    SpoiltAt item ([] :: paths) (key :: path) (key :: place) := by
  obtain ⟨overlap, array, before, cover, after, split, covers, entered⟩ := spoilt
  cases before with
  | nil =>
    obtain ⟨rfl, rfl⟩ := List.cons.inj split
    exact ⟨overlap.cons, by rwa [Json.follow_cons_of_step? found], [], [], paths, rfl,
      List.nil_prefix, entered.cons inside⟩
  | cons first before =>
    obtain ⟨-, split⟩ := List.cons.inj split
    exact (of_beneath found inside
      ⟨overlap, array, before, cover, after, split, covers, entered⟩).append_left [[]]

end SpoiltAt

end

/-! ## Values that stand -/

/-- The values written are those of an item. -/
def AreRead (item : Json) (writes : List PathWrite) : Prop :=
  ∀ write ∈ writes, item.follow write.1 = some write.2

section

variable
  {item value : Json}
  {writes : List PathWrite}
  {path : List String}
  {key : String}

/-- The values written below a key are those of what stands at the key. -/
theorem AreRead.beneath
    (reads : AreRead item writes)
    (found : item.step? key = some value) :
    AreRead value (beneath key writes) := by
  rintro ⟨path, content⟩ member
  have whole := reads _ (mem_beneath.mp member)
  rwa [Json.follow_cons_of_step? found] at whole

theorem notMem_map_fst (inside : ∀ write ∈ writes, write.1 ≠ []) : [] ∉ writes.map Prod.fst := by
  intro member
  obtain ⟨write, member, same⟩ := List.mem_map.mp member
  exact inside write member same

/-- A value of an item that is written whole is the item. -/
theorem AreRead.of_nil
    {content : Json}
    (reads : AreRead item writes)
    (member : ([], content) ∈ writes) :
    item = content :=
  Option.some.inj (reads _ member)

/-- Only objects and arrays have something inside. -/
theorem AreRead.exists_step?
    {content : Json}
    (reads : AreRead item writes)
    (member : (path, content) ∈ writes)
    (inside : path ≠ []) :
    ∃ key rest value, path = key :: rest ∧ item.step? key = some value := by
  obtain ⟨key, rest, rfl⟩ := List.exists_cons_of_ne_nil inside
  obtain ⟨value, entered, -⟩ := Option.bind_eq_some_iff.mp (reads _ member)
  exact ⟨key, rest, value, rfl, entered⟩

/-- Nothing is written below a key that the item does not have. -/
theorem beneath_eq_nil (reads : AreRead item writes) (absent : item.step? key = none) :
    beneath key writes = [] := by
  rw [List.eq_nil_iff_forall_not_mem]
  rintro ⟨path, content⟩ member
  have whole := reads _ (mem_beneath.mp member)
  rw [Json.follow_cons, absent] at whole
  cases whole

/-- What is written below a key after the value at the place itself. -/
theorem SpoiltAt.of_whole
    {before : List PathWrite}
    {content other : Json}
    {place : List String}
    (found : item.step? key = some value)
    (inside : ∀ write ∈ writes, write.1 ≠ [])
    (spoilt : SpoiltAt value ((([], other) :: beneath key writes).map Prod.fst) path place) :
    SpoiltAt item ((before ++ ([], content) :: writes).map Prod.fst) (key :: path)
      (key :: place) := by
  rw [List.map_cons, map_fst_beneath] at spoilt
  rw [List.map_append, List.map_cons]
  exact (of_beneath_whole found (notMem_map_fst inside) spoilt).append_left _

/-- An array that is written whole and then entered is spoilt, and with it all below it that
is not written again. -/
theorem SpoiltAt.of_array
    {items : List Json}
    {before : List PathWrite}
    {content : Json}
    (entered : writes ≠ [])
    (inside : ∀ write ∈ writes, write.1 ≠ [])
    (uncovered : ∀ write ∈ writes, ¬write.1 <+: path) :
    SpoiltAt (.array items) ((before ++ ([], content) :: writes).map Prod.fst) path [] := by
  obtain ⟨write, member⟩ := List.exists_mem_of_ne_nil _ entered
  refine ⟨.inr List.nil_prefix, ⟨items, rfl⟩, before.map Prod.fst, [], writes.map Prod.fst,
    by simp, List.nil_prefix, ⟨?_, _, List.mem_map_of_mem member, List.nil_prefix⟩⟩
  intro later member
  obtain ⟨other, there, rfl⟩ := List.mem_map.mp member
  exact ⟨fun leads => inside other there (List.prefix_nil.mp leads), uncovered other there⟩

/-- An object stands when what it holds stands under each of its keys. -/
theorem standing_object
    {entries : Object}
    (orderly : (Json.object entries).IsOrderly)
    (reads : AreRead (.object entries) writes)
    (inside : ∀ write ∈ writes, write.1 ≠ [])
    (below : ∀ key value, Dict.find? key entries = some value →
      standing none (([], value) :: beneath key writes) = some value) :
    standing (some (.object entries)) writes = some (.object entries) := by
  obtain ⟨result, stands, sorted, found⟩ := exists_standing_object entries inside
  rw [stands]
  congr 2
  refine (sorted orderly.1).ext orderly.1 fun key => ?_
  rw [found]
  cases held : Dict.find? key entries with
  | none =>
    rw [beneath_eq_nil reads held]
    rfl
  | some value => exact below key value held

/-- A value that is written whole stands, unless an array in it is entered. -/
theorem standing_of_whole
    {bound : Nat}
    (orderly : item.IsOrderly)
    (reads : AreRead item writes)
    (short : ∀ write ∈ writes, write.1.length < bound)
    (whole : ∃ write ∈ writes, write.1 = [])
    (kept : ∀ place, ¬SpoiltAt item (writes.map Prod.fst) [] place)
    (start : Option Json) :
    standing start writes = some item := by
  -- The induction is on the length of the paths.
  induction bound generalizing item writes start with
  | zero =>
    obtain ⟨write, member, -⟩ := whole
    exact absurd (short write member) (Nat.not_lt_zero _)
  | succ bound inductionHypothesis =>
    obtain ⟨before, content, after, rfl, inside⟩ := exists_last_whole whole
    obtain rfl := reads.of_nil (List.mem_append_right _ List.mem_cons_self)
    rw [standing_append, standing_cons]
    show standing (some item) after = some item
    by_cases ends : after = []
    case pos =>
      rw [ends]
      rfl
    have within {write : PathWrite} (member : write ∈ after) :
        write ∈ before ++ ([], item) :: after :=
      List.mem_append_right _ (List.mem_cons_of_mem _ member)
    have later : AreRead item after := fun write member => reads write (within member)
    obtain ⟨⟨first, content⟩, member⟩ := List.exists_mem_of_ne_nil _ ends
    have deep : first.length < bound + 1 := short _ (within member)
    obtain ⟨head, tail, child, rfl, entered⟩ := later.exists_step? member (inside _ member)
    rw [List.length_cons] at deep
    cases item with
    | null | bool | number | text => cases entered
    | array items =>
      exact (kept [] (.of_array ends inside fun write member leads =>
        inside write member (List.prefix_nil.mp leads))).elim
    | object entries =>
      refine standing_object orderly later inside fun key value held => ?_
      have entered : (Json.object entries).step? key = some value := held
      refine inductionHypothesis (Json.isOrderly_of_step? orderly entered) ?_ ?_
        ⟨_, List.mem_cons_self, rfl⟩ (fun place spoilt => ?_) none
      · rintro write (_ | ⟨_, member⟩)
        · rfl
        · exact later.beneath entered write member
      · rintro ⟨path, content⟩ (_ | ⟨_, member⟩)
        · show 0 < bound
          omega
        · exact Nat.lt_of_succ_lt_succ (short _ (within (mem_beneath.mp member)))
      · exact kept (key :: place)
          ((SpoiltAt.of_whole entered inside spoilt).of_longer List.nil_prefix)

theorem exists_length_lt (writes : List PathWrite) :
    ∃ bound, ∀ write ∈ writes, write.1.length < bound := by
  induction writes with
  | nil => exact ⟨0, fun _ member => (List.not_mem_nil member).elim⟩
  | cons first rest inductionHypothesis =>
    obtain ⟨bound, short⟩ := inductionHypothesis
    refine ⟨bound + first.1.length + 1, List.forall_mem_cons.mpr ⟨?_, fun write member => ?_⟩⟩
    · omega
    · have := short write member
      omega

/-- A path that is written, or led to by one that is, holds what it held, unless it is
spoilt. -/
theorem follow_standing
    {content : Json}
    (orderly : item.IsOrderly)
    (reads : AreRead item writes)
    (covered : ∃ write ∈ writes, write.1 <+: path)
    (found : item.follow path = some content)
    (kept : ∀ place, ¬SpoiltAt item (writes.map Prod.fst) path place) :
    (standing none writes).bind (Json.follow path) = some content := by
  induction path generalizing item writes with
  | nil =>
    obtain ⟨write, member, leads⟩ := covered
    obtain rfl := Option.some.inj found
    obtain ⟨bound, short⟩ := exists_length_lt writes
    rw [standing_of_whole orderly reads short ⟨write, member, List.prefix_nil.mp leads⟩ kept none]
    rfl
  | cons key rest inductionHypothesis =>
    obtain ⟨value, entered, found'⟩ := Option.bind_eq_some_iff.mp found
    have orderly' := Json.isOrderly_of_step? orderly entered
    -- Where an object is built up from nothing, only what is written below the key matters.
    have built {start : Option Json} {after : List PathWrite}
        (empty : Json.entriesAt start = [])
        (reads : AreRead item after)
        (inside : ∀ write ∈ after, write.1 ≠ [])
        (covered : ∃ write ∈ after, write.1 <+: key :: rest)
        (kept : ∀ place, ¬SpoiltAt item (after.map Prod.fst) (key :: rest) place) :
        (standing start after).bind (Json.follow (key :: rest)) = some content := by
      obtain ⟨⟨path, whole⟩, member, leads⟩ := covered
      obtain ⟨first, tail, rfl⟩ := List.exists_cons_of_ne_nil (inside _ member)
      obtain ⟨rfl, below⟩ := List.cons_prefix_cons.mp leads
      rw [standing_follow start (List.ne_nil_of_mem member) inside, empty]
      refine inductionHypothesis orderly' (reads.beneath entered)
        ⟨_, mem_beneath.mpr member, below⟩ found' fun place spoilt => ?_
      rw [map_fst_beneath] at spoilt
      exact kept _ (.of_beneath entered (notMem_map_fst inside) spoilt)
    by_cases whole : ∃ write ∈ writes, write.1 = []
    case neg =>
      exact built rfl reads (fun write member same => whole ⟨write, member, same⟩) covered kept
    obtain ⟨before, whole, after, rfl, inside⟩ := exists_last_whole whole
    obtain rfl := reads.of_nil (List.mem_append_right _ List.mem_cons_self)
    have later : AreRead item after := fun write member =>
      reads write (List.mem_append_right _ (List.mem_cons_of_mem _ member))
    rw [standing_append, standing_cons]
    show (standing (some item) after).bind (Json.follow (key :: rest)) = some content
    by_cases ends : after = []
    case pos =>
      rw [ends]
      exact found
    cases item with
    | null | bool | number | text => cases entered
    | array items =>
      by_cases covered : ∃ write ∈ after, write.1 <+: key :: rest
      · refine built rfl later inside covered fun place spoilt => kept place ?_
        rw [List.map_append, List.map_cons, List.append_cons]
        exact spoilt.append_left _
      · -- The path is not written again, so the array on the way to it is spoilt.
        exact (kept [] (.of_array ends inside fun write member leads =>
          covered ⟨write, member, leads⟩)).elim
    | object entries =>
      have held : Dict.find? key entries = some value := entered
      rw [standing_follow _ ends inside]
      show (standing (Dict.find? key entries) (beneath key after)).bind (Json.follow rest) = _
      rw [held]
      show (standing none (([], value) :: beneath key after)).bind (Json.follow rest) = _
      refine inductionHypothesis orderly' ?_ ⟨_, List.mem_cons_self, List.nil_prefix⟩ found'
        fun place spoilt => kept (key :: place) (.of_whole entered inside spoilt)
      rintro write (_ | ⟨_, member⟩)
      · rfl
      · exact later.beneath entered write member

/-- A place that is entered after it was last written holds an object. -/
theorem exists_object_standing
    {place : List String}
    {value : Json}
    (start : Option Json)
    (enters : place <+: path)
    (last : ∀ write ∈ (path, value) :: writes, ¬write.1 <+: place) :
    ∃ entries, (standing start ((path, value) :: writes)).bind (Json.follow place) =
      some (.object entries) := by
  have inside : ∀ write ∈ (path, value) :: writes, write.1 ≠ [] := fun write member same =>
    last write member (same ▸ List.nil_prefix)
  induction place generalizing start path writes with
  | nil =>
    obtain ⟨result, stands, -⟩ := exists_standing_object (Json.entriesAt start) inside
    rw [standing_eq start (List.cons_ne_nil _ _) inside, stands]
    exact ⟨result, rfl⟩
  | cons key rest inductionHypothesis =>
    obtain ⟨more, rfl⟩ := enters
    rw [standing_follow start (List.cons_ne_nil _ _) inside]
    have first : beneath key ((key :: rest ++ more, value) :: writes) =
        (rest ++ more, value) :: beneath key writes :=
      List.filterMap_cons_some (by simp [rest?])
    have deeper : ∀ write ∈ (rest ++ more, value) :: beneath key writes, ¬write.1 <+: rest := by
      rintro ⟨path, content⟩ member leads
      rw [← first] at member
      exact last _ (mem_beneath.mp member) (List.cons_prefix_cons.mpr ⟨rfl, leads⟩)
    rw [first]
    exact inductionHypothesis _ (List.prefix_append _ _) deeper fun write member same =>
      deeper write member (same ▸ List.nil_prefix)

/-- Nothing stands at a path that overlaps with none of those written. -/
theorem follow_standing_eq_none
    (apart : ∀ write ∈ writes, ¬Overlap path write.1) :
    (standing none writes).bind (Json.follow path) = none := by
  rw [Option.eq_none_iff_forall_ne_some]
  intro content found
  rcases exists_comesFrom found with found | ⟨write, member, source⟩
  · cases found
  · exact apart write member source.overlap.symm

end

/-! ## Picked items -/

namespace Transform

/-- The listed paths that an item has, with the values there. -/
def writesOf (fields : List String) (item : Json) : List PathWrite :=
  fields.filterMap fun field => (item.lookup field).map fun value => (Path.segments field, value)

/-- The listed paths that an item has. -/
def pathsOf (fields : List String) (item : Json) : List (List String) :=
  (fields.filter fun field => (item.lookup field).isSome).map Path.segments

section

variable {fields : List String} {item : Json} {field : String} {value : Json}

/-- A value is written for each listed path that the item has. -/
theorem mem_writesOf {write : PathWrite} :
    write ∈ writesOf fields item ↔
      ∃ field ∈ fields, write.1 = Path.segments field ∧ item.lookup field = some write.2 := by
  unfold writesOf
  rw [List.mem_filterMap]
  constructor
  · rintro ⟨field, member, found⟩
    obtain ⟨value, read, rfl⟩ := Option.map_eq_some_iff.mp found
    exact ⟨field, member, rfl, read⟩
  · obtain ⟨path, value⟩ := write
    rintro ⟨field, member, rfl, found⟩
    exact ⟨field, member, by rw [found]; rfl⟩

/-- Values are written at the listed paths that the item has, in their order. -/
theorem map_fst_writesOf (fields : List String) (item : Json) :
    (writesOf fields item).map Prod.fst = pathsOf fields item := by
  induction fields with
  | nil => rfl
  | cons field rest inductionHypothesis =>
    unfold writesOf pathsOf at inductionHypothesis ⊢
    rw [List.filterMap_cons, List.filter_cons]
    cases item.lookup field with
    | none => exact inductionHypothesis
    | some value => exact congrArg (Path.segments field :: ·) inductionHypothesis

/-- The values that picking writes are those of the item. -/
theorem areRead_writesOf (fields : List String) (item : Json) :
    AreRead item (writesOf fields item) := by
  intro write member
  obtain ⟨field, -, same, found⟩ := mem_writesOf.mp member
  rw [same]
  exact found

/-- Picking writes the values of the item one after another. -/
theorem standing_writesOf (fields : List String) (item : Json) (entries : Object) :
    some (.object (fields.foldl (pickField item) entries)) =
      standing (some (.object entries)) (writesOf fields item) := by
  induction fields generalizing entries with
  | nil => rfl
  | cons field rest inductionHypothesis =>
    unfold writesOf pickField at inductionHypothesis ⊢
    rw [List.foldl_cons, inductionHypothesis, List.filterMap_cons]
    cases item.lookup field with
    | none => rfl
    | some value =>
      show standing (some (.object (Object.put field value entries))) _ = standing _ _
      rw [Json.object_put]
      rfl

/-- What a picked item holds under a path. -/
theorem lookup_pickItem (fields : List String) (item : Json) (field : String) :
    (Json.object (pickItem fields item)).lookup field =
      (standing none (writesOf fields item)).bind (Json.follow (Path.segments field)) := by
  obtain ⟨key, rest, same⟩ := Path.exists_segments field
  have stands := standing_writesOf fields item []
  have inside : ∀ write ∈ writesOf fields item, write.1 ≠ [] := by
    intro write member
    obtain ⟨field, -, path, -⟩ := mem_writesOf.mp member
    obtain ⟨key, rest, same⟩ := Path.exists_segments field
    rw [path, same]
    exact List.cons_ne_nil _ _
  show (some (Json.object (fields.foldl (pickField item) []))).bind
    (Json.follow (Path.segments field)) = _
  rw [stands, same]
  by_cases ends : writesOf fields item = []
  · rw [ends]
    rfl
  · rw [standing_follow _ ends inside, standing_follow _ ends inside]
    rfl

/-- What picking makes of an item. -/
structure Projects (fields : List String) (item picked : Json) : Prop where
  /-- A listed path that the item does not have is not there, unless it overlaps with one
  that the item has. -/
  absent : ∀ field ∈ fields, item.lookup field = none →
    (∀ path ∈ pathsOf fields item, ¬Overlap (Path.segments field) path) →
      picked.lookup field = none
  /-- A listed path that the item has holds what it held, unless it is spoilt. -/
  present : ∀ field ∈ fields, ∀ value, item.lookup field = some value →
    (∀ place, ¬SpoiltAt item (pathsOf fields item) (Path.segments field) place) →
      picked.lookup field = some value
  /-- All of them hold what they held exactly if none is spoilt. -/
  all : (∀ field ∈ fields, ∀ value, item.lookup field = some value →
      picked.lookup field = some value) ↔
    ∀ path ∈ pathsOf fields item, ∀ place, ¬SpoiltAt item (pathsOf fields item) path place

theorem mem_pathsOf {path : List String} :
    path ∈ pathsOf fields item ↔ ∃ write ∈ writesOf fields item, write.1 = path := by
  rw [← map_fst_writesOf, List.mem_map]

/-- Where the last writes lead into a place, and none to it or above it, an object stands. -/
theorem exists_object_of_entered
    {path place : List String}
    {writes : List PathWrite}
    (before : List PathWrite)
    (entered : EnteredBy (writes.map Prod.fst) path place) :
    ∃ entries, (standing none (before ++ writes)).bind (Json.follow place) =
      some (.object entries) := by
  obtain ⟨_, member, enters⟩ := entered.enters
  obtain ⟨⟨later, value⟩, inside, rfl⟩ := List.mem_map.mp member
  obtain ⟨first, last, rfl⟩ := List.append_of_mem inside
  rw [← List.append_assoc, standing_append]
  exact exists_object_standing _ enters fun write member =>
    (entered.inside write.1 (List.mem_map_of_mem (List.mem_append_right _ member))).1

/-- What is picked of one item. -/
theorem projects_pickItem
    (fields : List String)
    (orderly : item.IsOrderly) :
    Projects fields item (.object (pickItem fields item)) := by
  have reads := areRead_writesOf fields item
  have present : ∀ field ∈ fields, ∀ value, item.lookup field = some value →
      (∀ place, ¬SpoiltAt item (pathsOf fields item) (Path.segments field) place) →
        (Json.object (pickItem fields item)).lookup field = some value := by
    intro field member value found kept
    rw [lookup_pickItem]
    refine follow_standing orderly reads ⟨(Path.segments field, value), ?_, List.prefix_rfl⟩
      found ?_
    · exact mem_writesOf.mpr ⟨field, member, rfl, found⟩
    · rwa [map_fst_writesOf]
  refine ⟨fun field member missing apart => ?_, present, fun held path member place spoilt => ?_,
    fun kept field member value found => present field member value found (kept _
      (mem_pathsOf.mpr ⟨(Path.segments field, value), mem_writesOf.mpr ⟨field, member, rfl, found⟩,
        rfl⟩))⟩
  · rw [lookup_pickItem]
    exact follow_standing_eq_none fun write member =>
      apart write.1 (mem_pathsOf.mpr ⟨_, member, rfl⟩)
  · obtain ⟨-, ⟨items, array⟩, before, cover, after, split, ⟨rest, rfl⟩, entered⟩ := spoilt
    -- What covers the array is listed itself, and does not hold the array any more.
    obtain ⟨first, others, same, -, ends⟩ :=
      List.map_eq_append_iff.mp ((map_fst_writesOf fields item).trans split)
    obtain ⟨⟨whole, value⟩, last, rfl, rfl, rfl⟩ := List.map_eq_cons_iff.mp ends
    have covers : (whole, value) ∈ writesOf fields item :=
      same ▸ List.mem_append_right _ List.mem_cons_self
    obtain ⟨listed, inside, path, found⟩ := mem_writesOf.mp covers
    obtain ⟨entries, object⟩ := exists_object_of_entered (first ++ [(whole, value)]) entered
    have kept := held listed inside value found
    rw [lookup_pickItem, ← path, same, List.append_cons] at kept
    have reads := areRead_writesOf fields item _ covers
    rw [Json.follow_append, reads] at array
    obtain ⟨current, stands, follows⟩ := Option.bind_eq_some_iff.mp object
    rw [stands, Option.bind_some] at kept
    rw [Json.follow_append, kept] at follows
    cases array.symm.trans follows

/-- What is picked of an item in order is in order. -/
theorem isOrderly_pickItem
    (fields : List String)
    (orderly : item.IsOrderly) :
    (Json.object (pickItem fields item)).IsOrderly := by
  have begun : ∀ value ∈ some (Json.object []), value.IsOrderly := by
    rintro _ ⟨⟩
    exact ⟨.nil, trivial⟩
  refine isOrderly_standing begun ?_ _ (standing_writesOf fields item []).symm
  intro write member
  obtain ⟨field, -, -, found⟩ := mem_writesOf.mp member
  exact Json.isOrderly_of_follow orderly found

/-- What is picked of an item, in order as the item is. -/
def pickedOf (fields : List String) (item : OrderlyJson) : OrderlyJson where
  value := .object (pickItem fields item.value)
  orderly := isOrderly_pickItem fields item.orderly

/-- Picking keeps the number of items and their order, and of each item what is listed. -/
theorem pick_projects (fields : List String) (items : List OrderlyJson) :
    ∃ picked : List OrderlyJson,
      apply (.pick fields) (.array (items.map OrderlyJson.value)) =
        .ok (.array (picked.map OrderlyJson.value)) ∧
      List.Forall₂ (fun item result => Projects fields item.value result.value) items picked := by
  refine ⟨items.map (pickedOf fields), ?_, ?_⟩
  · show Except.ok (Json.array ((items.map OrderlyJson.value).map _)) = _
    rw [List.map_map, List.map_map]
    rfl
  · apply List.forall₂_map_right_iff.mpr
    apply List.forall₂_same.mpr
    exact fun item _ => projects_pickItem fields item.orderly

end

/-- An item with an array under a key. -/
def numbered : OrderlyJson where
  value := .object [("a", .array [.ofInt 1, .ofInt 2]), ("b", .bool true)]
  orderly := by
    refine ⟨List.pairwise_pair.mpr (by decide), ?_⟩
    simp [Json.HasOrderly, Json.IsOrderly, Json.AreOrderly, Json.ofInt]

/-- Three paths through one array, of which one leads to no item, and one path beside it. -/
theorem pick_projects_numbered :
    ∃ picked : List OrderlyJson,
      apply (.pick ["a.1", "b", "a.7", "a.0"]) (.array [numbered.value]) =
        .ok (.array (picked.map OrderlyJson.value)) ∧
      List.Forall₂
        (fun item result => Projects ["a.1", "b", "a.7", "a.0"] item.value result.value)
        [numbered] picked :=
  pick_projects _ [numbered]

/-- An array that is listed is not there where an item of it is listed behind it. -/
theorem pick_replaces_array :
    ¬∃ picked, apply (.pick ["a", "a.0"]) (.array [numbered.value]) = .ok (.array [picked]) ∧
      ∀ field ∈ ["a", "a.0"], picked.lookup field = numbered.value.lookup field := by
  rintro ⟨picked, applied, held⟩
  obtain rfl : Json.object (pickItem ["a", "a.0"] numbered.value) = picked :=
    List.head_eq_of_cons_eq (Json.array.inj (Except.ok.inj applied))
  have array : numbered.value.lookup "a" = some (.array [.ofInt 1, .ofInt 2]) := rfl
  have object : (Json.object (pickItem ["a", "a.0"] numbered.value)).lookup "a" =
      some (.object [("0", .ofInt 1)]) :=
    rfl
  cases object.symm.trans ((held "a" List.mem_cons_self).trans array)

end Transform

end WorkflowEngine
