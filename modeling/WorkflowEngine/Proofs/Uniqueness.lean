import WorkflowEngine.Proofs.Picking
import WorkflowEngine.Proofs.Printing

/-!
# One item of every class

Items are told apart by the text of a part of them, with the empty text for a part that is
absent.  No two values have one text and none has the empty one, so that two items have one
text exactly if the part is the same in both or absent from both.  Of every class of items
the first one stays.
-/

namespace WorkflowEngine

namespace Dict

variable {α : Type} {entries entries' : List (String × α)}

/-- The order in which entries are listed makes no difference to a dictionary. -/
theorem ofList_eq_of_perm
    (perm : entries.Perm entries')
    (distinct : (entries.map Prod.fst).Nodup) :
    ofList entries = ofList entries' := by
  have distinct' := (perm.map Prod.fst).nodup_iff.mp distinct
  refine (sorted_ofList entries).ext (sorted_ofList entries') fun key => ?_
  rw [← lookup_eq_find?, ← lookup_eq_find?, lookup_ofList distinct, lookup_ofList distinct',
    lookup_eq_find?, lookup_eq_find?]
  ext value
  rw [find?_eq_some_iff distinct, find?_eq_some_iff distinct', perm.mem_iff]

end Dict

namespace Transform

variable {field : Option String} {seen : List String} {items : List Json}

/-! ## Classes -/

/-- Two items have one text exactly if the part is absent from both or the same value in
both. -/
theorem uniqueKey_eq_iff {first second : Json} :
    uniqueKey field first = uniqueKey field second ↔
      fieldOf field first = fieldOf field second := by
  refine ⟨fun same => ?_, fun same => by rw [uniqueKey, uniqueKey, same]⟩
  unfold uniqueKey at same
  cases part : fieldOf field first with
  | none =>
    cases part' : fieldOf field second with
    | none => rfl
    | some value' =>
      rw [part, part'] at same
      exact absurd same.symm value'.toText_ne_empty
  | some value =>
    cases part' : fieldOf field second with
    | none =>
      rw [part, part'] at same
      exact absurd same value.toText_ne_empty
    | some value' =>
      rw [part, part'] at same
      exact congrArg some (Json.toText_injective same)

/-- At a place stands an item of a class of which no item stands before it. -/
def IsFirst (field : Option String) (items : List Json) (place : Nat) : Prop :=
  ∃ item, items[place]? = some item ∧
    ∀ other ∈ items.take place, fieldOf field other ≠ fieldOf field item

/-- What stays of some items are those at certain places, in order: at the first place of
every class. -/
structure KeepsFirsts
    (field : Option String)
    (items kept : List Json)
    (places : List Nat) : Prop where
  ascending : places.Pairwise (· < ·)
  firsts : ∀ place, place ∈ places ↔ IsFirst field items place
  placed : kept.map some = places.map (items[·]?)
  represented : ∀ item ∈ items, ∃ other ∈ kept, fieldOf field other = fieldOf field item
  distinct : kept.Pairwise fun first second => fieldOf field first ≠ fieldOf field second

/-! ## The texts that were seen -/

/-- At a place stands an item whose text was not seen, neither at the start nor before the
place. -/
def IsNew (field : Option String) (seen : List String) (items : List Json) (place : Nat) : Prop :=
  ∃ item, items[place]? = some item ∧ uniqueKey field item ∉ seen ∧
    ∀ other ∈ items.take place, uniqueKey field other ≠ uniqueKey field item

theorem isNew_nil_iff {place : Nat} : IsNew field [] items place ↔ IsFirst field items place := by
  unfold IsNew IsFirst
  simp only [List.not_mem_nil, not_false_eq_true, true_and, Ne, uniqueKey_eq_iff]

theorem isNew_zero_iff {item : Json} :
    IsNew field seen (item :: items) 0 ↔ uniqueKey field item ∉ seen := by
  simp [IsNew]

/-- Behind the first item its text counts as seen. -/
theorem isNew_succ_iff {item : Json} {place : Nat} :
    IsNew field seen (item :: items) (place + 1) ↔
      IsNew field (uniqueKey field item :: seen) items place := by
  unfold IsNew
  simp only [List.getElem?_cons_succ, List.take_succ_cons, List.mem_cons, forall_eq_or_imp, not_or]
  grind

theorem isNew_cons_of_mem {key : String} {place : Nat} (old : key ∈ seen) :
    IsNew field (key :: seen) items place ↔ IsNew field seen items place := by
  unfold IsNew
  simp only [List.mem_cons]
  grind

/-- What stays of the items are those at the places of new texts. -/
theorem exists_places_uniqueItems
    (field : Option String)
    (seen : List String)
    (items : List Json) :
    ∃ places : List Nat, places.Pairwise (· < ·) ∧
      (∀ place, place ∈ places ↔ IsNew field seen items place) ∧
      (uniqueItems field seen items).map some = places.map (items[·]?) := by
  have later (places : List Nat) (place : Nat) :
      place + 1 ∈ places.map (· + 1) ↔ place ∈ places :=
    List.mem_map_of_injective (add_left_injective 1)
  induction items generalizing seen with
  | nil =>
    refine ⟨[], .nil, fun place => ?_, rfl⟩
    simp [IsNew]
  | cons item rest inductionHypothesis =>
    unfold uniqueItems
    dsimp only
    split
    next old =>
      have old := List.contains_iff_mem.mp old
      obtain ⟨places, ascending, new, placed⟩ := inductionHypothesis seen
      refine ⟨places.map (· + 1), ascending.map _ fun _ _ => Nat.succ_lt_succ, fun place => ?_, ?_⟩
      · cases place with
        | zero => simp [isNew_zero_iff, old]
        | succ place => rw [later, new, isNew_succ_iff, isNew_cons_of_mem old]
      · rw [placed, List.map_map]
        rfl
    next fresh =>
      have fresh := mt List.contains_iff_mem.mpr fresh
      obtain ⟨places, ascending, new, placed⟩ := inductionHypothesis (uniqueKey field item :: seen)
      refine ⟨0 :: places.map (· + 1), List.pairwise_cons.mpr ⟨?_, ?_⟩, fun place => ?_, ?_⟩
      · simp
      · exact ascending.map _ fun _ _ => Nat.succ_lt_succ
      · cases place with
        | zero => simp [isNew_zero_iff, fresh]
        | succ place =>
          rw [List.mem_cons, or_iff_right (Nat.succ_ne_zero place), later, new, isNew_succ_iff]
      · rw [List.map_cons, placed, List.map_cons, List.map_map]
        rfl

/-- Every item has its text among those seen at the start and those of the items that stay. -/
theorem uniqueKey_mem_of_mem
    {item : Json}
    (seen : List String)
    (member : item ∈ items) :
    uniqueKey field item ∈ seen ∨
      ∃ other ∈ uniqueItems field seen items, uniqueKey field other = uniqueKey field item := by
  induction items generalizing seen with
  | nil => cases member
  | cons first rest inductionHypothesis =>
    unfold uniqueItems
    dsimp only
    split
    next old =>
      rcases List.mem_cons.mp member with rfl | member
      · exact .inl (List.contains_iff_mem.mp old)
      · exact inductionHypothesis seen member
    next =>
      rcases List.mem_cons.mp member with rfl | member
      · exact .inr ⟨item, List.mem_cons_self, rfl⟩
      · rcases inductionHypothesis (uniqueKey field first :: seen) member with old | stays
        · rcases List.mem_cons.mp old with same | old
          · exact .inr ⟨first, List.mem_cons_self, same.symm⟩
          · exact .inl old
        · obtain ⟨other, stays, same⟩ := stays
          exact .inr ⟨other, List.mem_cons_of_mem _ stays, same⟩

/-- The items that stay have texts that were not seen at the start, each its own. -/
theorem pairwise_uniqueItems
    (field : Option String)
    (seen : List String)
    (items : List Json) :
    (∀ item ∈ uniqueItems field seen items, uniqueKey field item ∉ seen) ∧
      (uniqueItems field seen items).Pairwise fun first second =>
        uniqueKey field first ≠ uniqueKey field second := by
  induction items generalizing seen with
  | nil => exact ⟨fun _ member => (List.not_mem_nil member).elim, .nil⟩
  | cons item rest inductionHypothesis =>
    unfold uniqueItems
    dsimp only
    split
    next => exact inductionHypothesis seen
    next fresh =>
      obtain ⟨unseen, distinct⟩ := inductionHypothesis (uniqueKey field item :: seen)
      refine ⟨List.forall_mem_cons.mpr ⟨mt List.contains_iff_mem.mpr fresh, fun other stays => ?_⟩,
        List.pairwise_cons.mpr ⟨fun other stays same => ?_, distinct⟩⟩
      · exact fun old => unseen other stays (List.mem_cons_of_mem _ old)
      · exact unseen other stays (same ▸ List.mem_cons_self)

/-- Where every text is a new one, all items stay. -/
theorem uniqueItems_of_pairwise
    (unseen : ∀ item ∈ items, uniqueKey field item ∉ seen)
    (distinct : items.Pairwise fun first second => uniqueKey field first ≠ uniqueKey field second) :
    uniqueItems field seen items = items := by
  induction items generalizing seen with
  | nil => rfl
  | cons item rest inductionHypothesis =>
    obtain ⟨apart, distinct⟩ := List.pairwise_cons.mp distinct
    obtain ⟨fresh, unseen⟩ := List.forall_mem_cons.mp unseen
    unfold uniqueItems
    dsimp only
    rw [if_neg (mt List.contains_iff_mem.mp fresh), inductionHypothesis _ distinct]
    exact fun other member => List.not_mem_cons_of_ne_of_not_mem (apart other member).symm
      (unseen other member)

/-! ## The stage -/

theorem keepsFirsts_uniqueItems (field : Option String) (items : List Json) :
    ∃ places, KeepsFirsts field items (uniqueItems field [] items) places := by
  obtain ⟨places, ascending, new, placed⟩ := exists_places_uniqueItems field [] items
  refine ⟨places, ascending, fun place => (new place).trans isNew_nil_iff, placed,
    fun item member => ?_, ?_⟩
  · obtain ⟨other, stays, same⟩ :=
      (uniqueKey_mem_of_mem [] member).resolve_left List.not_mem_nil
    exact ⟨other, stays, uniqueKey_eq_iff.mp same⟩
  · exact (pairwise_uniqueItems field [] items).2.imp fun different same =>
      different (uniqueKey_eq_iff.mpr same)

/-- A stage for unique items keeps of an array exactly the first item of every class, in
order, and run once more it keeps all of them.  Two items are in one class where the part is
absent from both or the same value in both.  Values are the same as trees: an integer is no
floating-point number, zero is not negative zero, and an object holds its entries in the
order of their keys, whatever the order they are listed in. -/
theorem unique_keepsFirsts (field : Option String) (items : List Json) :
    (∃ kept places, KeepsFirsts field items kept places ∧
      apply (.unique field) (.array items) = .ok (.array kept) ∧
      apply (.unique field) (.array kept) = .ok (.array kept)) ∧
    ∀ entries entries' : List (String × Json), entries.Perm entries' →
      (entries.map Prod.fst).Nodup → Json.ofEntries entries = Json.ofEntries entries' := by
  refine ⟨?_, fun entries entries' perm distinct =>
    congrArg Json.object (Dict.ofList_eq_of_perm perm distinct)⟩
  obtain ⟨places, keeps⟩ := keepsFirsts_uniqueItems field items
  obtain ⟨unseen, distinct⟩ := pairwise_uniqueItems field [] items
  have again := uniqueItems_of_pairwise unseen distinct
  exact ⟨uniqueItems field [] items, places, keeps, rfl, congrArg (Except.ok ∘ Json.array) again⟩

/-- Items with a part that is there twice, its entries listed in two orders, that is `null`,
and that is absent twice. -/
def parcels : List Json := [
  .object [("size", .ofEntries [("a", .ofInt 1), ("b", .null)])],
  .object [("note", .text "fragile")],
  .object [("note", .text "heavy"), ("size", .ofEntries [("b", .null), ("a", .ofInt 1)])],
  .object [("size", .null)],
  .object []]

/-- One parcel of every size stays, and one without a size. -/
theorem unique_keepsFirsts_listed :
    (∃ kept places, KeepsFirsts (some "size") parcels kept places ∧
      apply (.unique (some "size")) (.array parcels) = .ok (.array kept) ∧
      apply (.unique (some "size")) (.array kept) = .ok (.array kept) ∧
      kept.map some = [0, 1, 3].map (parcels[·]?)) ∧
    [("a", Json.ofInt 1), ("b", .null)].Perm [("b", .null), ("a", Json.ofInt 1)] ∧
      ([("a", Json.ofInt 1), ("b", .null)].map Prod.fst).Nodup ∧
      Json.ofEntries [("a", .ofInt 1), ("b", .null)] =
        Json.ofEntries [("b", .null), ("a", .ofInt 1)] := by
  obtain ⟨⟨kept, places, keeps, applied, again⟩, listed⟩ :=
    unique_keepsFirsts (some "size") parcels
  refine ⟨⟨kept, places, keeps, applied, again, ?_⟩, ?_⟩
  · cases applied
    rfl
  · have perm : [("a", Json.ofInt 1), ("b", .null)].Perm [("b", .null), ("a", Json.ofInt 1)] :=
      .swap _ _ _
    have distinct : ([("a", Json.ofInt 1), ("b", .null)].map Prod.fst).Nodup := by decide
    exact ⟨perm, distinct, listed _ _ perm distinct⟩

end Transform
end WorkflowEngine
