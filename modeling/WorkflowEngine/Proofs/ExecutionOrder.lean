import Mathlib.Data.List.Induction
import WorkflowEngine.Proofs.Steps

/-!
# The order of execution

Steps are sorted by their keys, and those with the same key stay in the order in which they
are declared.  A step is told apart by the place at which it is declared, so that nothing is
lost where two steps are alike.
-/

namespace WorkflowEngine

/-- The step at one place is carried out before the one at another: its key is smaller, or
it is the same and the step is declared earlier. -/
def Precedes (steps : List Step) (here there : Nat) : Prop :=
  ∃ first second, steps[here]? = some first ∧ steps[there]? = some second ∧
    (first.order < second.order ∨ first.order = second.order ∧ here < there)

/-- Steps are sorted when they are those at some places, each of them once, and each place
precedes the ones behind it. -/
structure Arranges (steps sorted : List Step) (places : List Nat) : Prop where
  perm : places.Perm (List.range steps.length)
  increasing : places.Pairwise (Precedes steps)
  reads : sorted.map some = places.map (steps[·]?)

namespace Precedes

variable {steps : List Step} {here there : Nat}

/-- Steps that follow do not change the order of those before them. -/
theorem append
    (precedes : Precedes steps here there)
    (more : List Step) :
    Precedes (steps ++ more) here there := by
  obtain ⟨first, second, atHere, atThere, order⟩ := precedes
  refine ⟨first, second, ?_, ?_, order⟩
  · rw [List.getElem?_append_left (List.getElem?_eq_some_iff.mp atHere).1, atHere]
  · rw [List.getElem?_append_left (List.getElem?_eq_some_iff.mp atThere).1, atThere]

/-- Of two places one comes before the other, and not the other way round. -/
theorem asymm (precedes : Precedes steps here there) : ¬Precedes steps there here := by
  obtain ⟨first, second, atHere, atThere, order⟩ := precedes
  rintro ⟨second', first', atThere', atHere', reversed⟩
  obtain rfl := Option.some.inj (atHere.symm.trans atHere')
  obtain rfl := Option.some.inj (atThere.symm.trans atThere')
  omega

end Precedes

/-! ## Sorting -/

/-- A step that is declared behind all others is put behind those that precede it. -/
theorem exists_arranged_insert
    {steps sorted : List Step}
    {places : List Nat}
    {step : Step}
    {place : Nat}
    (here : steps[place]? = some step)
    (earlier : ∀ other ∈ places, other < place)
    (increasing : places.Pairwise (Precedes steps))
    (reads : sorted.map some = places.map (steps[·]?)) :
    ∃ more : List Nat, more.Perm (place :: places) ∧ more.Pairwise (Precedes steps) ∧
      (insertByOrder step sorted).map some = more.map (steps[·]?) := by
  induction places generalizing sorted with
  | nil =>
    obtain rfl := List.map_eq_nil_iff.mp reads
    exact ⟨[place], .refl _, List.pairwise_singleton _ _, by simp [insertByOrder, here]⟩
  | cons other rest inductionHypothesis =>
    obtain ⟨before, increasing⟩ := List.pairwise_cons.mp increasing
    obtain ⟨first, others, rfl, there, reads⟩ := List.map_eq_cons_iff.mp reads
    unfold insertByOrder
    split
    next smaller =>
      -- All others have keys that are no smaller than that of the first one.
      have precedes : ∀ next ∈ other :: rest, Precedes steps place next := by
        intro next member
        rcases List.mem_cons.mp member with rfl | member
        · exact ⟨step, first, here, there.symm, .inl smaller⟩
        · obtain ⟨same, second, atOther, atNext, order⟩ := before next member
          obtain rfl := Option.some.inj (there.trans atOther)
          exact ⟨step, second, here, atNext, .inl (by omega)⟩
      refine ⟨place :: other :: rest, .refl _, ?_, ?_⟩
      · exact List.pairwise_cons.mpr ⟨precedes, List.pairwise_cons.mpr ⟨before, increasing⟩⟩
      · simp only [List.map_cons, here, there, reads]
    next notSmaller =>
      obtain ⟨more, perm, sorted, reads⟩ := inductionHypothesis
        (fun next member => earlier next (List.mem_cons_of_mem _ member)) increasing reads
      have precedes : ∀ next ∈ more, Precedes steps other next := by
        intro next member
        rcases List.mem_cons.mp (perm.mem_iff.mp member) with rfl | member
        · have declared := earlier other List.mem_cons_self
          exact ⟨first, step, there.symm, here, by omega⟩
        · exact before next member
      refine ⟨other :: more, (perm.cons other).trans (.swap place other rest), ?_, ?_⟩
      · exact List.pairwise_cons.mpr ⟨precedes, sorted⟩
      · simp only [List.map_cons, there, reads]

/-- The last step is inserted into the others once they are sorted. -/
theorem sortByOrder_concat (steps : List Step) (step : Step) :
    sortByOrder (steps ++ [step]) = insertByOrder step (sortByOrder steps) := by
  unfold sortByOrder
  rw [List.foldl_concat]

/-- Sorting puts steps in the order of execution. -/
theorem exists_arranges (steps : List Step) :
    ∃ places, Arranges steps (sortByOrder steps) places := by
  induction steps using List.reverseRecOn with
  | nil => exact ⟨[], .refl _, List.Pairwise.nil, rfl⟩
  | append_singleton steps step inductionHypothesis =>
    obtain ⟨places, perm, increasing, reads⟩ := inductionHypothesis
    have inside : ∀ other ∈ places, other < steps.length := fun other member =>
      List.mem_range.mp (perm.mem_iff.mp member)
    have still : places.map (steps[·]?) = places.map ((steps ++ [step])[·]?) :=
      List.map_congr_left fun other member =>
        (List.getElem?_append_left (inside other member)).symm
    obtain ⟨more, larger, sorted, reads⟩ := exists_arranged_insert List.getElem?_concat_length
      inside (increasing.imp fun precedes => precedes.append [step]) (reads.trans still)
    refine ⟨more, ?_, sorted, ?_⟩
    · rw [List.length_append, List.length_singleton, List.range_succ]
      exact (larger.trans (perm.cons _)).trans (List.perm_append_singleton _ _).symm
    · rw [sortByOrder_concat, reads]

/-! ## Places -/

namespace Arranges

variable
  {steps sorted : List Step}
  {places : List Nat}
  {position place : Nat}

theorem length_eq (arranges : Arranges steps sorted places) : places.length = steps.length := by
  rw [arranges.perm.length_eq, List.length_range]

theorem length_sorted (arranges : Arranges steps sorted places) :
    sorted.length = steps.length := by
  rw [← arranges.length_eq, ← List.length_map (f := some), arranges.reads, List.length_map]

/-- At each position there is the step that was declared at the place for it. -/
theorem getElem?_sorted (arranges : Arranges steps sorted places) (position : Nat) :
    sorted[position]? = places[position]?.bind (steps[·]?) := by
  have read := congrArg (·[position]?) arranges.reads
  simp only [List.getElem?_map] at read
  cases found : places[position]? with
  | none =>
    rw [found] at read
    exact Option.map_eq_none_iff.mp read
  | some place =>
    rw [found] at read
    obtain ⟨step, sorted, here⟩ := Option.map_eq_some_iff.mp read
    rw [sorted, here]
    rfl

theorem exists_position
    (arranges : Arranges steps sorted places)
    (inside : place < steps.length) :
    ∃ position : Nat, places[position]? = some place :=
  List.mem_iff_getElem?.mp (arranges.perm.mem_iff.mpr (List.mem_range.mpr inside))

/-- Sorting keeps the steps. -/
theorem mem_sorted (arranges : Arranges steps sorted places) {step : Step} :
    step ∈ sorted ↔ step ∈ steps := by
  constructor
  · intro member
    obtain ⟨position, there⟩ := List.mem_iff_getElem?.mp member
    rw [arranges.getElem?_sorted, Option.bind_eq_some_iff] at there
    obtain ⟨place, -, there⟩ := there
    exact List.mem_of_getElem? there
  · intro member
    obtain ⟨place, there⟩ := List.mem_iff_getElem?.mp member
    obtain ⟨position, here⟩ := arranges.exists_position (List.getElem?_eq_some_iff.mp there).1
    refine List.mem_of_getElem? (i := position) ?_
    rw [arranges.getElem?_sorted, here, Option.bind_some, there]

/-- Of two places the one that precedes the other is at an earlier position. -/
theorem precedes_iff
    (arranges : Arranges steps sorted places)
    {other next : Nat}
    (here : places[position]? = some place)
    (there : places[next]? = some other) :
    Precedes steps place other ↔ position < next := by
  have before {first last here there : Nat}
      (atFirst : places[first]? = some here)
      (atLast : places[last]? = some there)
      (earlier : first < last) : Precedes steps here there := by
    obtain ⟨inside, rfl⟩ := List.getElem?_eq_some_iff.mp atFirst
    obtain ⟨within, rfl⟩ := List.getElem?_eq_some_iff.mp atLast
    exact List.pairwise_iff_getElem.mp arranges.increasing _ _ inside within earlier
  refine ⟨fun precedes => ?_, before here there⟩
  rcases Nat.lt_trichotomy position next with earlier | rfl | later
  · exact earlier
  · obtain rfl := Option.some.inj (here.symm.trans there)
    exact (precedes.asymm precedes).elim
  · exact (precedes.asymm (before there here later)).elim

end Arranges
end WorkflowEngine
