import Mathlib.Data.List.Chain
import Mathlib.Data.List.Induction
import Mathlib.Data.String.Basic
import Mathlib.Order.WithBot
import WorkflowEngine.Action.Transform
import WorkflowEngine.Proofs.Rounding

/-!
# Sorting by a field

The order of two keys passes for equality where the keys are of different kinds, and
compares numbers by the floating-point numbers next to them.  Sorting puts every array of
some items in order exactly if neither does any harm to their keys.
-/

namespace WorkflowEngine

/-- The order in the direction of sorting. -/
def SortOrder.direct : SortOrder → Ordering → Ordering
  | .ascending, ordering => ordering
  | .descending, ordering => ordering.swap

/-- The order of two numbers by their exact size, of two texts, or of two truth values. -/
def Json.sizeOrder? : Json → Json → Option Ordering
  | .number first, .number second => some (compare first.units second.units)
  | .text first, .text second => some (compare first second)
  | .bool first, .bool second => some (compare first second)
  | _, _ => none

namespace Transform

/-- The order of two keys that are present and of one kind. -/
def sizeOrder? : Option Json → Option Json → Option Ordering
  | some first, some second => first.sizeOrder? second
  | _, _ => none

/-- The keys that some items have. -/
def keysOf (field : String) (items : List Json) : List Json := items.filterMap (Json.lookup field)

/-- The items of an array, each with its place in it, are in order: keys of one kind are in
the order that is asked for, and items with equal keys in the order of their places. -/
structure IsArranged
    (field : String)
    (order : SortOrder)
    (items : List Json)
    (tagged : List (Json × Nat)) : Prop where
  perm : tagged.Perm items.zipIdx
  ordered : tagged.Pairwise fun first second => ∀ ordering,
    sizeOrder? (first.1.lookup field) (second.1.lookup field) = some ordering →
      order.direct ordering ≠ .gt
  stable : tagged.Pairwise fun first second =>
    first.1.lookup field = second.1.lookup field ∨
        sizeOrder? (first.1.lookup field) (second.1.lookup field) = some .eq →
      first.2 < second.2

/-- An array of some items is sorted. -/
def Sorts (field : String) (order : SortOrder) (items : List Json) : Prop :=
  ∃ tagged, apply (.sort field order) (.array items) = .ok (.array (tagged.map Prod.fst)) ∧
    IsArranged field order items tagged

/-- Keys among which the order of two is that of their sizes. -/
structure AreConsistent (keys : List Json) : Prop where
  /-- Rounding keeps numbers of different size apart. -/
  exact : ∀ first second, .number first ∈ keys → .number second ∈ keys →
    first.units < second.units → first.toFloat < second.toFloat
  /-- Where two keys of one kind differ, there are no others. -/
  alike : ∀ first ∈ keys, ∀ second ∈ keys, ∀ other ∈ keys,
    first.sizeOrder? second = some .lt → first.sizeOrder? other ≠ none

/-! ## Insertion -/

section

variable
  {before : Json → Json → Bool}
  {Follows : Json × Nat → Json × Nat → Prop}
  {item : Json}
  {place : Nat}

/-- An item is put behind the last one that it does not come before. -/
theorem exists_tagged_insertBack
    {tagged : List (Json × Nat)}
    (passes : ∀ other ∈ tagged, before item other.1 = true → Follows other (item, place))
    (stops : ∀ other ∈ tagged, before item other.1 = false → Follows (item, place) other)
    (trans : ∀ first ∈ tagged, ∀ second ∈ tagged,
      Follows (item, place) second → Follows second first → Follows (item, place) first)
    (sorted : tagged.Pairwise Follows) :
    ∃ more : List (Json × Nat), more.Perm ((item, place) :: tagged) ∧ more.Pairwise Follows ∧
      more.map Prod.fst = insertBack before item (tagged.map Prod.fst) := by
  induction tagged with
  | nil => exact ⟨[(item, place)], .refl _, List.pairwise_singleton _ _, rfl⟩
  | cons last rest inductionHypothesis =>
    obtain ⟨above, sorted⟩ := List.pairwise_cons.mp sorted
    rw [List.map_cons]
    unfold insertBack
    split
    next less =>
      obtain ⟨more, perm, sorted, same⟩ := inductionHypothesis
        (fun other member => passes other (List.mem_cons_of_mem _ member))
        (fun other member => stops other (List.mem_cons_of_mem _ member))
        (fun first member second member' => trans first (List.mem_cons_of_mem _ member)
          second (List.mem_cons_of_mem _ member'))
        sorted
      refine ⟨last :: more, (perm.cons last).trans (.swap _ _ _), ?_, ?_⟩
      · refine List.pairwise_cons.mpr ⟨fun other member => ?_, sorted⟩
        rcases List.mem_cons.mp (perm.mem_iff.mp member) with rfl | member
        · exact passes last List.mem_cons_self less
        · exact above other member
      · rw [List.map_cons, same]
    next notLess =>
      have first := stops last List.mem_cons_self (Bool.eq_false_iff.mpr notLess)
      refine ⟨(item, place) :: last :: rest, .refl _, ?_, rfl⟩
      refine List.pairwise_cons.mpr ⟨fun other member => ?_, List.pairwise_cons.mpr ⟨above, sorted⟩⟩
      rcases List.mem_cons.mp member with rfl | member
      · exact first
      · exact trans other (List.mem_cons_of_mem _ member) last List.mem_cons_self first
          (above other member)

variable (before item) in
/-- The last item is inserted into the others once they are sorted. -/
theorem sortItems_concat (items : List Json) :
    (sortItems before (items ++ [item])).reverse =
      insertBack before item (sortItems before items).reverse := by
  unfold sortItems
  rw [List.foldl_concat, List.reverse_reverse, List.reverse_reverse]

variable (before Follows) in
/-- Sorting arranges items by a relation that the comparisons follow. -/
theorem exists_tagged_sortItems
    {items : List Json}
    (passes : ∀ first ∈ items.zipIdx, ∀ second ∈ items.zipIdx, first.2 < second.2 →
      before second.1 first.1 = true → Follows first second)
    (stops : ∀ first ∈ items.zipIdx, ∀ second ∈ items.zipIdx, first.2 < second.2 →
      before second.1 first.1 = false → Follows second first)
    (trans : ∀ first ∈ items.zipIdx, ∀ second ∈ items.zipIdx, ∀ third ∈ items.zipIdx,
      Follows first second → Follows second third → Follows first third) :
    ∃ tagged : List (Json × Nat), tagged.Perm items.zipIdx ∧ tagged.Pairwise Follows ∧
      tagged.map Prod.fst = (sortItems before items).reverse := by
  induction items using List.reverseRecOn with
  | nil => exact ⟨[], .refl _, List.Pairwise.nil, rfl⟩
  | append_singleton items item inductionHypothesis =>
    have last : (items ++ [item]).zipIdx = items.zipIdx ++ [(item, items.length)] := by
      simp [List.zipIdx_append]
    have old {entry : Json × Nat} (member : entry ∈ items.zipIdx) :
        entry ∈ (items ++ [item]).zipIdx := by
      rw [last]
      exact List.mem_append_left _ member
    have new : (item, items.length) ∈ (items ++ [item]).zipIdx := by
      rw [last]
      exact List.mem_append_right _ (List.mem_singleton_self _)
    have earlier {entry : Json × Nat} (member : entry ∈ items.zipIdx) : entry.2 < items.length := by
      have := List.mem_zipIdx (x := entry.1) (i := entry.2) member
      omega
    obtain ⟨tagged, perm, sorted, same⟩ := inductionHypothesis
      (fun first member second member' => passes first (old member) second (old member'))
      (fun first member second member' => stops first (old member) second (old member'))
      (fun first member second member' third member'' =>
        trans first (old member) second (old member') third (old member''))
    have within {entry : Json × Nat} (member : entry ∈ tagged) : entry ∈ items.zipIdx :=
      perm.mem_iff.mp member
    obtain ⟨more, larger, sorted, same'⟩ := exists_tagged_insertBack
      (fun other member => passes other (old (within member)) _ new (earlier (within member)))
      (fun other member => stops other (old (within member)) _ new (earlier (within member)))
      (fun first member second member' =>
        trans _ new second (old (within member')) first (old (within member)))
      sorted
    refine ⟨more, ?_, sorted, ?_⟩
    · rw [last]
      exact (larger.trans (perm.cons _)).trans (List.perm_append_singleton _ _).symm
    · rw [sortItems_concat, ← same, same']

theorem mem_of_mem_zipIdx
    {items : List Json}
    {entry : Json × Nat}
    (member : entry ∈ items.zipIdx) :
    entry.1 ∈ items :=
  (List.mem_zipIdx' member).2 ▸ List.getElem_mem _

/-- Items that are compared by ranks are put in the order of their ranks, those of one rank
in the order of their places. -/
theorem exists_ascending
    {α : Type}
    [LinearOrder α]
    {rank : Json → α}
    {items : List Json}
    (ranks : ∀ first ∈ items, ∀ second ∈ items,
      before first second = true ↔ rank first < rank second) :
    ∃ tagged : List (Json × Nat), tagged.map Prod.fst = sortItems before items ∧
      tagged.Perm items.zipIdx ∧ tagged.Pairwise fun first second =>
        rank first.1 < rank second.1 ∨ rank first.1 = rank second.1 ∧ first.2 < second.2 := by
  obtain ⟨tagged, perm, sorted, same⟩ := exists_tagged_sortItems before
    (fun later earlier => rank earlier.1 < rank later.1 ∨
      rank earlier.1 = rank later.1 ∧ earlier.2 < later.2)
    (fun first member second member' earlier less =>
      .inl ((ranks _ (mem_of_mem_zipIdx member') _ (mem_of_mem_zipIdx member)).mp less))
    (fun first member second member' earlier notLess => by
      have atMost := le_of_not_gt
        (mt (ranks _ (mem_of_mem_zipIdx member') _ (mem_of_mem_zipIdx member)).mpr
          (Bool.eq_false_iff.mp notLess))
      exact atMost.lt_or_eq.imp_right fun same => ⟨same, earlier⟩)
    (fun first _ second _ third _ follows follows' => by
      rcases follows with less | ⟨same, earlier⟩ <;> rcases follows' with less' | ⟨same', earlier'⟩
      · exact .inl (less'.trans less)
      · exact .inl (same'.trans_lt less)
      · exact .inl (less'.trans_eq same)
      · exact .inr ⟨same'.trans same, earlier'.trans earlier⟩)
  refine ⟨tagged.reverse, ?_, (List.reverse_perm _).trans perm, List.pairwise_reverse.mpr sorted⟩
  rw [List.map_reverse, same, List.reverse_reverse]

end

/-! ## Keys -/

/-- A key that is present comes before one that is missing. -/
theorem keyOrder_some_none (key : Json) : keyOrder (some key) none = .lt := by
  cases key <;> rfl

/-- Items are compared by their keys, in the direction of sorting. -/
theorem itemOrder_eq (field : String) (order : SortOrder) (first second : Json) :
    itemOrder field order first second =
      order.direct (keyOrder (first.lookup field) (second.lookup field)) := by
  cases order <;> rfl

theorem mem_keysOf {field : String} {items : List Json} {key : Json} :
    key ∈ keysOf field items ↔ ∃ item ∈ items, item.lookup field = some key :=
  List.mem_filterMap

/-- Numbers are compared by the floating-point numbers next to them. -/
theorem keyOrder_number
    {first second : Number}
    (held : first.IsHeld)
    (other : second.IsHeld) :
    keyOrder (some (.number first)) (some (.number second)) =
      compare (Double.units first.toFloat) (Double.units second.toFloat) := by
  show (Json.compareFloats first.toFloat second.toFloat).getD .eq = _
  rw [Double.compareFloats_eq (Number.isFinite_toFloat held) (Number.isFinite_toFloat other)]
  rfl

/-- The order by size is reversed with the two keys. -/
theorem sizeOrder?_swap (first second : Json) :
    second.sizeOrder? first = (first.sizeOrder? second).map Ordering.swap := by
  cases first <;> cases second <;> first | rfl | exact congrArg some Std.OrientedOrd.eq_swap

/-- Keys that are not of one kind pass for equal. -/
theorem keyOrder_of_sizeOrder?_eq_none
    {first second : Json}
    (apart : first.sizeOrder? second = none) :
    keyOrder (some first) (some second) = .eq := by
  cases first <;> cases second <;> first | rfl | cases apart

namespace AreConsistent

variable
  {keys : List Json}
  {first second : Json}
  (consistent : AreConsistent keys)
  (held : ∀ number, .number number ∈ keys → number.IsHeld)

include consistent held

/-- Among consistent keys a smaller number stays smaller as a floating-point number. -/
theorem units_toFloat_lt
    {low high : Number}
    (member : .number low ∈ keys)
    (member' : .number high ∈ keys)
    (less : low.units < high.units) :
    Double.units low.toFloat < Double.units high.toFloat :=
  (Double.lt_iff (Number.isFinite_toFloat (held _ member))
    (Number.isFinite_toFloat (held _ member'))).mp (consistent.exact _ _ member member' less)

/-- Consistent numbers are compared by their exact size. -/
theorem keyOrder_number_eq
    {low high : Number}
    (member : .number low ∈ keys)
    (member' : .number high ∈ keys) :
    keyOrder (some (.number low)) (some (.number high)) = compare low.units high.units := by
  rw [keyOrder_number (held _ member) (held _ member')]
  rcases lt_trichotomy low.units high.units with less | same | greater
  · rw [compare_lt_iff_lt.mpr less,
      compare_lt_iff_lt.mpr (consistent.units_toFloat_lt held member member' less)]
  · rw [compare_eq_iff_eq.mpr same,
      compare_eq_iff_eq.mpr (Number.units_toFloat_congr (held _ member) (held _ member') same)]
  · rw [compare_gt_iff_gt.mpr greater,
      compare_gt_iff_gt.mpr (consistent.units_toFloat_lt held member' member greater)]

/-- Consistent keys of one kind are compared by their sizes. -/
theorem keyOrder_eq
    {ordering : Ordering}
    (member : first ∈ keys)
    (member' : second ∈ keys)
    (sizes : first.sizeOrder? second = some ordering) :
    keyOrder (some first) (some second) = ordering := by
  cases first with
  | number =>
    cases second with
    | number =>
      exact (consistent.keyOrder_number_eq held member member').trans (Option.some.inj sizes)
    | _ => cases sizes
  | text =>
    cases second with
    | text => exact Option.some.inj sizes
    | _ => cases sizes
  | bool =>
    cases second with
    | bool => exact Option.some.inj sizes
    | _ => cases sizes
  | null | array | object => cases sizes

/-- Consistent keys have ranks by which they are compared. -/
theorem exists_ranks :
    ∃ (α : Type) (_ : LinearOrder α) (rank : Json → α), ∀ first ∈ keys, ∀ second ∈ keys,
      keyOrder (some first) (some second) = compare (rank first) (rank second) := by
  by_cases differ : ∃ first ∈ keys, ∃ second ∈ keys, first.sizeOrder? second = some .lt
  · obtain ⟨first, member, second, member', less⟩ := differ
    have alike : ∀ other ∈ keys, first.sizeOrder? other ≠ none := fun other member'' =>
      consistent.alike first member second member' other member'' less
    cases first with
    | null | array | object => cases less
    | number =>
      refine ⟨Int, inferInstance, fun key => Double.units (key.float?.getD 0),
        fun first here second there => ?_⟩
      cases first with
      | number =>
        cases second with
        | number => exact keyOrder_number (held _ here) (held _ there)
        | _ => exact (alike _ there rfl).elim
      | _ => exact (alike _ here rfl).elim
    | text =>
      refine ⟨String, inferInstance, fun key => key.text?.getD "",
        fun first here second there => ?_⟩
      cases first with
      | text =>
        cases second with
        | text => rfl
        | _ => exact (alike _ there rfl).elim
      | _ => exact (alike _ here rfl).elim
    | bool =>
      refine ⟨Bool, inferInstance, fun key => key.bool?.getD false,
        fun first here second there => ?_⟩
      cases first with
      | bool =>
        cases second with
        | bool => rfl
        | _ => exact (alike _ there rfl).elim
      | _ => exact (alike _ here rfl).elim
  · refine ⟨Unit, inferInstance, fun _ => (), fun first member second member' => ?_⟩
    cases sizes : first.sizeOrder? second with
    | none => exact keyOrder_of_sizeOrder?_eq_none sizes
    | some ordering =>
      rw [keyOrder_eq consistent held member member' sizes]
      cases ordering with
      | eq => rfl
      | lt => exact (differ ⟨first, member, second, member', sizes⟩).elim
      | gt =>
        refine (differ ⟨second, member', first, member, ?_⟩).elim
        rw [sizeOrder?_swap, sizes]
        rfl

end AreConsistent

/-- Items with consistent keys have ranks by which they are compared. -/
theorem exists_itemRanks
    {field : String}
    {items : List Json}
    (order : SortOrder)
    (consistent : AreConsistent (keysOf field items))
    (held : ∀ number, .number number ∈ keysOf field items → number.IsHeld) :
    ∃ (α : Type) (_ : LinearOrder α) (rank : Option Json → α), ∀ first ∈ items, ∀ second ∈ items,
      itemOrder field order first second =
        compare (rank (first.lookup field)) (rank (second.lookup field)) := by
  obtain ⟨α, _, rank, ranks⟩ := consistent.exists_ranks held
  -- A missing key comes behind all others.
  let position : Option Json → WithTop α := Option.map rank
  have less (key : Json) : position (some key) < position none := WithTop.coe_lt_top _
  have positions : ∀ first ∈ items, ∀ second ∈ items,
      keyOrder (first.lookup field) (second.lookup field) =
        compare (position (first.lookup field)) (position (second.lookup field)) := by
    intro first member second member'
    cases here : first.lookup field with
    | none =>
      cases there : second.lookup field with
      | none => exact (compare_eq_iff_eq.mpr rfl).symm
      | some key => exact (compare_gt_iff_gt.mpr (less key)).symm
    | some key =>
      cases there : second.lookup field with
      | none => exact (keyOrder_some_none key).trans (compare_lt_iff_lt.mpr (less key)).symm
      | some other =>
        rw [ranks key (mem_keysOf.mpr ⟨first, member, here⟩) other
          (mem_keysOf.mpr ⟨second, member', there⟩)]
        rcases lt_trichotomy (rank key) (rank other) with less | same | greater
        · exact (compare_lt_iff_lt.mpr less).trans
            (compare_lt_iff_lt.mpr (WithTop.coe_lt_coe.mpr less)).symm
        · exact (compare_eq_iff_eq.mpr same).trans
            (compare_eq_iff_eq.mpr (WithTop.coe_inj.mpr same)).symm
        · exact (compare_gt_iff_gt.mpr greater).trans
            (compare_gt_iff_gt.mpr (WithTop.coe_lt_coe.mpr greater)).symm
  cases order with
  | ascending => exact ⟨WithTop α, inferInstance, position, positions⟩
  | descending =>
    refine ⟨(WithTop α)ᵒᵈ, inferInstance, OrderDual.toDual ∘ position,
      fun first member second member' => ?_⟩
    show (keyOrder (first.lookup field) (second.lookup field)).swap = _
    rw [positions first member second member']
    exact Std.OrientedOrd.eq_swap.symm

/-! ## Sorting -/

section

variable {field : String} {order : SortOrder} {items picked : List Json}

theorem keysOf_subset (within : picked ⊆ items) : keysOf field picked ⊆ keysOf field items :=
  List.filterMap_subset _ within

/-- Fewer keys are still consistent. -/
theorem AreConsistent.subset
    {keys others : List Json}
    (consistent : AreConsistent keys)
    (within : others ⊆ keys) :
    AreConsistent others where
  exact first second member member' :=
    consistent.exact first second (within member) (within member')
  alike first member second member' other member'' :=
    consistent.alike first (within member) second (within member') other (within member'')

/-- Items with consistent keys are compared by size wherever there is an order by size. -/
theorem itemOrder_of_sizeOrder?
    {first second : Json}
    {ordering : Ordering}
    (consistent : AreConsistent (keysOf field items))
    (held : ∀ number, .number number ∈ keysOf field items → number.IsHeld)
    (member : first ∈ items)
    (member' : second ∈ items)
    (sizes : sizeOrder? (first.lookup field) (second.lookup field) = some ordering) :
    itemOrder field order first second = order.direct ordering := by
  rw [itemOrder_eq]
  congr 1
  cases here : first.lookup field with
  | none =>
    rw [here] at sizes
    cases sizes
  | some key =>
    cases there : second.lookup field with
    | none =>
      rw [here, there] at sizes
      cases sizes
    | some other =>
      rw [here, there] at sizes
      exact consistent.keyOrder_eq held (mem_keysOf.mpr ⟨first, member, here⟩)
        (mem_keysOf.mpr ⟨second, member', there⟩) sizes

/-- Items with consistent keys are sorted. -/
theorem sorts_of_consistent
    (consistent : AreConsistent (keysOf field items))
    (held : ∀ number, .number number ∈ keysOf field items → number.IsHeld) :
    Sorts field order items := by
  obtain ⟨α, _, rank, ranks⟩ := exists_itemRanks order consistent held
  let rankOf (item : Json) : α := rank (item.lookup field)
  have compared : ∀ first ∈ items, ∀ second ∈ items,
      (itemOrder field order first second == .lt) = true ↔ rankOf first < rankOf second := by
    intro first member second member'
    rw [ranks first member second member', beq_iff_eq, compare_lt_iff_lt]
  obtain ⟨tagged, same, perm, ascends⟩ := exists_ascending compared
  have inside {entry : Json × Nat} (member : entry ∈ tagged) : entry.1 ∈ items :=
    mem_of_mem_zipIdx (perm.mem_iff.mp member)
  -- Where the sizes of two keys are in some order, their ranks are in that order.
  have sized {first second : Json × Nat} {ordering : Ordering}
      (member : first ∈ tagged) (member' : second ∈ tagged)
      (sizes : sizeOrder? (first.1.lookup field) (second.1.lookup field) = some ordering) :
      compare (rankOf first.1) (rankOf second.1) = order.direct ordering :=
    (ranks _ (inside member) _ (inside member')).symm.trans
      (itemOrder_of_sizeOrder? consistent held (inside member) (inside member') sizes)
  refine ⟨tagged, ?_, perm, ?_, ?_⟩
  · rw [same]
    rfl
  · refine ascends.imp_of_mem fun {first second} member member' follows ordering sizes => ?_
    rw [← sized member member' sizes, ne_eq, compare_gt_iff_gt]
    rcases follows with less | ⟨equal, -⟩
    · exact less.asymm
    · exact equal.not_gt
  · refine ascends.imp_of_mem fun {first second} member member' follows equal => ?_
    have level : rankOf first.1 = rankOf second.1 := by
      rcases equal with equal | sizes
      · exact congrArg rank equal
      · have ranked := sized member member' sizes
        cases order <;> exact compare_eq_iff_eq.mp ranked
    exact (follows.resolve_left level.not_lt).2

/-! ## Keys that are not consistent -/

/-- Where sorting puts items in order, no item comes before one that belongs in
front of it. -/
theorem Sorts.pairwise (sorts : Sorts field order items) :
    (sortItems (fun first second => itemOrder field order first second == .lt) items).Pairwise
      fun first second => ∀ ordering,
        sizeOrder? (first.lookup field) (second.lookup field) = some ordering →
          order.direct ordering ≠ .gt := by
  obtain ⟨tagged, applied, -, ordered, -⟩ := sorts
  have same : sortItems _ items = tagged.map Prod.fst :=
    Json.array.inj (Except.ok.inj applied)
  rw [same]
  exact List.pairwise_map.mpr ordered

/-- Items none of which comes before the one in front of it stay where they are. -/
theorem sortItems_of_isChain
    {before : Json → Json → Bool}
    (chain : items.IsChain fun first second => before second first = false) :
    sortItems before items = items := by
  induction items using List.reverseRecOn with
  | nil => rfl
  | append_singleton items item inductionHypothesis =>
    obtain ⟨chain, -, follows⟩ := List.isChain_append.mp chain
    have inserted := sortItems_concat before item items
    rw [inductionHypothesis chain] at inserted
    apply List.reverse_injective
    rw [inserted, List.reverse_append]
    cases reversed : items.reverse with
    | nil => rfl
    | cons last rest =>
      have least := follows last (by rw [← List.head?_reverse, reversed]; rfl) item rfl
      unfold insertBack
      rw [least]
      rfl

/-- Where items stay although a key has to come in front of another one, they are not
sorted. -/
theorem not_sorts_of_isChain
    {front back : Json}
    {first last : Json}
    {ordering : Ordering}
    (chain : items.IsChain fun first second => itemOrder field order second first ≠ .lt)
    (behind : [front, back].Sublist items)
    (here : front.lookup field = some first)
    (there : back.lookup field = some last)
    (sizes : first.sizeOrder? last = some ordering)
    (reversed : order.direct ordering = .gt) :
    ¬Sorts field order items := fun sorts => by
  have ordered := sorts.pairwise
  rw [sortItems_of_isChain (chain.imp fun _ _ notLess => beq_false_of_ne notLess)] at ordered
  refine List.pairwise_pair.mp (ordered.sublist behind) ordering ?_ reversed
  rw [here, there]
  exact sizes

/-- Two keys pass the order with a key of another kind between them. -/
theorem not_sorts_of_between
    {front between back : Json}
    {first middle last : Json}
    {ordering : Ordering}
    (here : front.lookup field = some first)
    (inside : between.lookup field = some middle)
    (there : back.lookup field = some last)
    (apart : first.sizeOrder? middle = none)
    (apart' : last.sizeOrder? middle = none)
    (sizes : first.sizeOrder? last = some ordering)
    (reversed : order.direct ordering = .gt) :
    ¬Sorts field order [front, between, back] := by
  have swapped : middle.sizeOrder? first = none := by
    rw [sizeOrder?_swap, apart]
    rfl
  refine not_sorts_of_isChain (List.isChain_cons_cons.mpr ⟨?_, List.isChain_pair.mpr ?_⟩)
    (.cons_cons _ (.cons _ (.refl _))) here there sizes reversed
  · rw [itemOrder_eq, here, inside, keyOrder_of_sizeOrder?_eq_none swapped]
    cases order <;> decide
  · rw [itemOrder_eq, inside, there, keyOrder_of_sizeOrder?_eq_none apart']
    cases order <;> decide

/-- A key that cannot be compared with one of two comparable keys cannot be compared with the
other one. -/
theorem sizeOrder?_eq_none_congr
    {first second other : Json}
    {ordering : Ordering}
    (sizes : first.sizeOrder? second = some ordering)
    (apart : first.sizeOrder? other = none) :
    second.sizeOrder? other = none := by
  cases first <;> cases second <;> cases sizes
  all_goals cases other <;> first | rfl | cases apart

/-- Integers of at most 53 binary digits are consistent. -/
theorem AreConsistent.of_integers
    {keys : List Json}
    (small : ∀ key ∈ keys, ∃ value : Int, key = .ofInt value ∧ value.natAbs ≤ 2 ^ 53) :
    AreConsistent keys where
  exact first second member member' less := by
    obtain ⟨low, same, few⟩ := small _ member
    obtain ⟨high, same', few'⟩ := small _ member'
    obtain rfl := Json.number.inj same
    obtain rfl := Json.number.inj same'
    obtain ⟨finite, amount⟩ := Double.units_ofInt low (by omega)
    obtain ⟨finite', amount'⟩ := Double.units_ofInt high (by omega)
    rw [Double.rounded_of_natAbs_le few] at amount
    rw [Double.rounded_of_natAbs_le few'] at amount'
    exact (Double.lt_iff finite finite').mpr (by rwa [amount, amount'])
  alike first member second member' other member'' less := by
    obtain ⟨_, rfl, -⟩ := small _ member
    obtain ⟨_, rfl, -⟩ := small _ member''
    exact Option.some_ne_none _

/-- Items are sorted in every array only if their keys are consistent. -/
theorem AreConsistent.of_sorts
    (held : ∀ number, .number number ∈ keysOf field items → number.IsHeld)
    (sorts : ∀ picked ⊆ items, Sorts field order picked) :
    AreConsistent (keysOf field items) where
  exact first second member member' less := by
    obtain ⟨low, inside, here⟩ := mem_keysOf.mp member
    obtain ⟨high, inside', there⟩ := mem_keysOf.mp member'
    rw [Double.lt_iff (Number.isFinite_toFloat (held _ member))
      (Number.isFinite_toFloat (held _ member'))]
    by_contra notLess
    cases order with
    | ascending =>
      have sizes : (Json.number second).sizeOrder? (.number first) = some .gt :=
        congrArg some (compare_gt_iff_gt.mpr less)
      refine not_sorts_of_isChain (List.isChain_pair.mpr ?_) (.refl _) there here sizes rfl
        (sorts [high, low] (List.cons_subset.mpr ⟨inside', by simpa using inside⟩))
      rw [itemOrder_eq, here, there, keyOrder_number (held _ member) (held _ member')]
      exact mt compare_lt_iff_lt.mp notLess
    | descending =>
      have sizes : (Json.number first).sizeOrder? (.number second) = some .lt :=
        congrArg some (compare_lt_iff_lt.mpr less)
      refine not_sorts_of_isChain (List.isChain_pair.mpr ?_) (.refl _) here there sizes rfl
        (sorts [low, high] (List.cons_subset.mpr ⟨inside, by simpa using inside'⟩))
      rw [itemOrder_eq, here, there, keyOrder_number (held _ member') (held _ member)]
      exact mt (fun swapped => compare_gt_iff_gt.mp (Ordering.swap_eq_lt.mp swapped)) notLess
  alike first member second member' other member'' less apart := by
    obtain ⟨low, inside, here⟩ := mem_keysOf.mp member
    obtain ⟨high, inside', there⟩ := mem_keysOf.mp member'
    obtain ⟨between, inside'', amid⟩ := mem_keysOf.mp member''
    have apart' := sizeOrder?_eq_none_congr less apart
    have more : second.sizeOrder? first = some .gt := by
      rw [sizeOrder?_swap, less]
      rfl
    cases order with
    | ascending =>
      refine not_sorts_of_between there amid here apart' apart more rfl (sorts _ ?_)
      simp [inside, inside', inside'']
    | descending =>
      refine not_sorts_of_between here amid there apart apart' less rfl (sorts _ ?_)
      simp [inside, inside', inside'']

/-- Every array of some items is sorted exactly if their keys are consistent. -/
theorem sorts_iff
    (order : SortOrder)
    (held : ∀ number, .number number ∈ keysOf field items → number.IsHeld) :
    (∀ picked ⊆ items, Sorts field order picked) ↔ AreConsistent (keysOf field items) :=
  ⟨.of_sorts held, fun consistent _ within =>
    sorts_of_consistent (consistent.subset (keysOf_subset within))
      fun number member => held number (keysOf_subset within member)⟩

end

/-- An item with a number under a key. -/
def counted (value : Int) : Json := .object [("n", .ofInt value)]

theorem keysOf_counted : keysOf "n" [counted 3, .object [], counted 1] = [.ofInt 3, .ofInt 1] := by
  cbv

/-- A missing key does no harm. -/
theorem sorts_counted :
    AreConsistent (keysOf "n" [counted 3, .object [], counted 1]) ∧
      ∀ picked ⊆ [counted 3, .object [], counted 1], Sorts "n" .descending picked := by
  have known : ∀ key ∈ keysOf "n" [counted 3, .object [], counted 1],
      key = .ofInt 3 ∨ key = .ofInt 1 := by
    simp [keysOf_counted]
  have consistent : AreConsistent (keysOf "n" [counted 3, .object [], counted 1]) := by
    refine .of_integers fun key member => ?_
    rcases known key member with rfl | rfl <;> exact ⟨_, rfl, by decide⟩
  refine ⟨consistent, (sorts_iff .descending fun number member => ?_).mpr consistent⟩
  rcases known _ member with same | same <;> obtain rfl := Json.number.inj same <;> rfl

/-- Numbers stay in the wrong order with a null between them. -/
theorem not_sorts_around_null :
    ¬Sorts "n" .ascending [counted 3, .object [("n", .null)], counted 1] := by
  have here : (counted 3).lookup "n" = some (.ofInt 3) := by cbv
  have amid : (Json.object [("n", .null)]).lookup "n" = some .null := by cbv
  have there : (counted 1).lookup "n" = some (.ofInt 1) := by cbv
  have sizes : (Json.ofInt 3).sizeOrder? (.ofInt 1) = some .gt :=
    congrArg some (compare_gt_iff_gt.mpr
      (Int.mul_lt_mul_of_pos_right (by decide) (Int.natCast_pos.mpr Double.perOne_pos)))
  exact not_sorts_of_between here amid there rfl rfl sizes rfl

end Transform
end WorkflowEngine
