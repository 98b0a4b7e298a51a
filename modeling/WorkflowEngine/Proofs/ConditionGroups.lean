import Mathlib.Data.List.SplitBy
import WorkflowEngine.Condition

/-!
# Groups of conditions

Under the semantics of precedence a list of conditions is a disjunction of groups, and a
group is a conjunction.  Both are evaluated from left to right and no further than
necessary, so that a condition that cannot be evaluated matters only if everything
before it has left the answer open.
-/

namespace WorkflowEngine
namespace Condition

/-- The groups of a list of conditions.  A group ends behind each condition that is joined
to the next one by a disjunction, and at the end of the list. -/
def groups (conditions : List Condition) : List (List Condition) :=
  conditions.splitBy fun condition _ => !condition.closesGroup

@[simp] theorem groups_nil : groups [] = [] := rfl

@[simp] theorem groups_eq_nil_iff {conditions : List Condition} :
    groups conditions = [] ↔ conditions = [] :=
  List.splitBy_eq_nil

section

variable {condition : Condition} {rest group : List Condition} {others : List (List Condition)}

/-- A condition that ends a group makes up one in front of the others. -/
theorem groups_cons_of_closes (closes : (condition.closesGroup || rest.isEmpty) = true) :
    groups (condition :: rest) = [condition] :: groups rest := by
  refine List.splitBy_append (l := [condition]) fun first here next behind => ?_
  cases rest with
  | nil => cases behind
  | cons => simpa [← Option.some.inj here] using closes

/-- Any other condition belongs to the group of the next one. -/
theorem groups_cons_of_open
    (stays : condition.closesGroup = false)
    (grouped : groups rest = group :: others) :
    groups (condition :: rest) = (condition :: group) :: others := by
  obtain ⟨whole, nonempty, chained, apart⟩ := List.splitBy_eq_iff.mp grouped
  rw [List.mem_cons, not_or] at nonempty
  refine List.splitBy_eq_iff.mpr ⟨by simp [whole], by simp [nonempty.2], ?_, ?_⟩
  · rw [List.forall_mem_cons] at chained ⊢
    exact ⟨List.isChain_cons.mpr ⟨fun next _ => by simp [stays], chained.1⟩, chained.2⟩
  · cases others with
    | nil => exact List.isChain_singleton _
    | cons second others =>
      rw [List.isChain_cons_cons] at apart ⊢
      obtain ⟨⟨some, more, closes⟩, apart⟩ := apart
      refine ⟨⟨List.cons_ne_nil _ _, more, ?_⟩, apart⟩
      rwa [List.getLast_cons some]

end

/-! ## Conjunctions and disjunctions -/

/-- The first answer that is not the one to pass over; that one if there is no other. -/
def firstOther {α : Type} (passed : Bool) (answer : α → Except ConditionError Bool) :
    List α → Except ConditionError Bool
  | [] => .ok passed
  | item :: rest =>
    match answer item with
    | .ok value => if value = passed then firstOther passed answer rest else .ok value
    | .error error => .error error

/-- The conjunction of some conditions. -/
def conjunction (data : Json) : List Condition → Except ConditionError Bool :=
  firstOther true (evaluate data)

/-- The disjunction of some groups. -/
def disjunction (data : Json) : List (List Condition) → Except ConditionError Bool :=
  firstOther false (conjunction data)

section

variable
  {α : Type}
  {passed : Bool}
  {answer : α → Except ConditionError Bool}
  {items : List α}
  {result : Except ConditionError Bool}

theorem firstOther_cons_passed
    {item : α}
    (same : answer item = .ok passed)
    (rest : List α) :
    firstOther passed answer (item :: rest) = firstOther passed answer rest := by
  rw [firstOther, same]
  exact if_pos rfl

theorem firstOther_cons_other
    {item : α}
    (other : answer item ≠ .ok passed)
    (rest : List α) :
    firstOther passed answer (item :: rest) = answer item := by
  rw [firstOther]
  split
  next value answered =>
    rw [answered] at other ⊢
    exact if_neg fun same => other (congrArg Except.ok same)
  next error broken => exact broken.symm

/-- Nothing else is answered exactly if all items pass. -/
theorem firstOther_eq_passed_iff :
    firstOther passed answer items = .ok passed ↔ ∀ item ∈ items, answer item = .ok passed := by
  induction items with
  | nil => simp [firstOther]
  | cons item rest inductionHypothesis =>
    rw [List.forall_mem_cons]
    by_cases same : answer item = .ok passed
    · rw [firstOther_cons_passed same, inductionHypothesis]
      simp [same]
    · rw [firstOther_cons_other same]
      simp [same]

/-- Any other answer is that of an item behind some that are passed over. -/
theorem firstOther_eq_iff (other : result ≠ .ok passed) :
    firstOther passed answer items = result ↔
      ∃ before item behind, items = before ++ item :: behind ∧
        (∀ earlier ∈ before, answer earlier = .ok passed) ∧ answer item = result := by
  constructor
  · intro found
    induction items with
    | nil => exact (other found.symm).elim
    | cons item rest inductionHypothesis =>
      by_cases same : answer item = .ok passed
      · rw [firstOther_cons_passed same] at found
        obtain ⟨before, last, behind, rfl, earlier, found⟩ := inductionHypothesis found
        exact ⟨item :: before, last, behind, rfl, List.forall_mem_cons.mpr ⟨same, earlier⟩, found⟩
      · rw [firstOther_cons_other same] at found
        exact ⟨[], item, rest, rfl, by simp, found⟩
  · rintro ⟨before, item, behind, rfl, earlier, rfl⟩
    induction before with
    | nil => exact firstOther_cons_other other behind
    | cons first before inductionHypothesis =>
      obtain ⟨same, earlier⟩ := List.forall_mem_cons.mp earlier
      rw [List.cons_append, firstOther_cons_passed same]
      exact inductionHypothesis earlier

end

/-! ## Evaluation -/

section

variable {data : Json} {conditions : List Condition}

/-- Groups are evaluated as a disjunction of conjunctions.  Once a group has failed, the
rest of it is passed over. -/
theorem evaluateGroups_eq (holds : Bool) (conditions : List Condition) :
    evaluateGroups data holds conditions =
      disjunction data (if holds then groups conditions else (groups conditions).tail) := by
  -- The first group of the rest is a whole one behind a condition that ends a group, and
  -- otherwise what is left of the same group.
  induction conditions generalizing holds with
  | nil => cases holds <;> rfl
  | cons condition rest inductionHypothesis =>
    cases closes : condition.closesGroup || rest.isEmpty with
    | true =>
      rw [groups_cons_of_closes closes, evaluateGroups, closes]
      cases holds with
      | false => simp [inductionHypothesis]
      | true =>
        cases answer : condition.evaluate data with
        | error => simp [answer, disjunction, conjunction, firstOther]
        | ok value =>
          cases value <;>
            simp [answer, inductionHypothesis, disjunction, conjunction, firstOther]
    | false =>
      obtain ⟨stays, more⟩ := Bool.or_eq_false_iff.mp closes
      obtain ⟨group, others, grouped⟩ := List.exists_cons_of_ne_nil
        (mt groups_eq_nil_iff.mp (List.isEmpty_eq_false_iff.mp more))
      rw [groups_cons_of_open stays grouped, evaluateGroups, closes]
      rw [grouped] at inductionHypothesis
      cases holds with
      | false => simp [inductionHypothesis]
      | true =>
        cases answer : condition.evaluate data with
        | error => simp [answer, disjunction, conjunction, firstOther]
        | ok value =>
          cases value <;>
            simp [answer, inductionHypothesis, disjunction, conjunction, firstOther]

/-- An empty list holds, and any other is the disjunction of its groups. -/
theorem evaluateAll_precedence_of_ne_nil (some : conditions ≠ []) :
    evaluateAll .precedence conditions data = disjunction data (groups conditions) := by
  unfold evaluateAll
  dsimp only
  rw [if_neg (by simpa using some)]
  exact evaluateGroups_eq true conditions

end

section

variable (data : Json)

/-- A condition of a group gives an answer, and all those before it hold. -/
def StopsWith (answer : Except ConditionError Bool) (group : List Condition) : Prop :=
  ∃ before condition behind, group = before ++ condition :: behind ∧
    (∀ earlier ∈ before, earlier.evaluate data = .ok true) ∧ condition.evaluate data = answer

/-- A group of a list is come to: every earlier one has a condition that fails, behind
conditions that hold. -/
def IsReached (conditions group : List Condition) : Prop :=
  ∃ before behind, groups conditions = before ++ group :: behind ∧
    ∀ earlier ∈ before, StopsWith data (.ok false) earlier

/-- A list holds if it is empty, or if all the conditions of a group hold that is come
to. -/
def Holds (conditions : List Condition) : Prop :=
  conditions = [] ∨
    ∃ group, IsReached data conditions group ∧
      ∀ condition ∈ group, condition.evaluate data = .ok true

/-- A list breaks with the error of a condition in a group that is come to, if all those
before it in its group hold. -/
def BreaksWith (error : ConditionError) (conditions : List Condition) : Prop :=
  ∃ group, IsReached data conditions group ∧ StopsWith data (.error error) group

end

section

variable {data : Json} {conditions group : List Condition}

/-- Every answer but yes is the one that a group stops with. -/
theorem conjunction_eq_iff {answer : Except ConditionError Bool} (other : answer ≠ .ok true) :
    conjunction data group = answer ↔ StopsWith data answer group :=
  firstOther_eq_iff other

/-- Every answer but no is that of a group that is come to. -/
theorem disjunction_groups_eq_iff
    {answer : Except ConditionError Bool}
    (other : answer ≠ .ok false) :
    disjunction data (groups conditions) = answer ↔
      ∃ group, IsReached data conditions group ∧ conjunction data group = answer := by
  have fails : (.ok false : Except ConditionError Bool) ≠ .ok true := nofun
  unfold disjunction IsReached
  rw [firstOther_eq_iff other]
  simp only [conjunction_eq_iff fails]
  constructor
  · rintro ⟨before, group, behind, parts, earlier, found⟩
    exact ⟨group, ⟨before, behind, parts, earlier⟩, found⟩
  · rintro ⟨group, ⟨before, behind, parts, earlier⟩, found⟩
    exact ⟨before, group, behind, parts, earlier, found⟩

/-- Evaluation by precedence says yes exactly where the conditions hold. -/
theorem evaluateAll_eq_true_iff :
    evaluateAll .precedence conditions data = .ok true ↔ Holds data conditions := by
  unfold Holds
  by_cases empty : conditions = []
  · simp [empty, evaluateAll]
  · have holds : (.ok true : Except ConditionError Bool) ≠ .ok false := nofun
    rw [evaluateAll_precedence_of_ne_nil empty, disjunction_groups_eq_iff holds]
    simp only [empty, false_or, conjunction, firstOther_eq_passed_iff]

/-- Evaluation by precedence fails exactly with the errors that the conditions break with. -/
theorem evaluateAll_eq_error_iff {error : ConditionError} :
    evaluateAll .precedence conditions data = .error error ↔ BreaksWith data error conditions := by
  unfold BreaksWith
  by_cases empty : conditions = []
  · simp [empty, evaluateAll, IsReached]
  · have breaks (value : Bool) : (.error error : Except ConditionError Bool) ≠ .ok value := nofun
    rw [evaluateAll_precedence_of_ne_nil empty, disjunction_groups_eq_iff (breaks false)]
    simp only [conjunction_eq_iff (breaks true)]

/-- The answer of a list, in terms of its groups. -/
theorem evaluateAll_precedence_iff (data : Json) (conditions : List Condition) :
    (evaluateAll .precedence conditions data = .ok true ↔ Holds data conditions) ∧
    (∀ error, evaluateAll .precedence conditions data = .error error ↔
      BreaksWith data error conditions) ∧
    (evaluateAll .precedence conditions data = .ok false ↔
      ¬ Holds data conditions ∧ ∀ error, ¬ BreaksWith data error conditions) := by
  refine ⟨evaluateAll_eq_true_iff, fun _ => evaluateAll_eq_error_iff, ?_⟩
  simp only [← evaluateAll_eq_true_iff, ← evaluateAll_eq_error_iff]
  match evaluateAll .precedence conditions data with
  | .ok true => simp
  | .ok false => simp
  | .error error => simp

end

-- What cannot be evaluated does no harm in a group that is not come to.
example :
    evaluateAll .precedence
      [{ field := "status", operator := .isNotNull, value := .null, joiner := some .or },
        { field := "status", operator := .regexMatch, value := .text "(", joiner := none }]
      (.object [("status", .text "open")]) = .ok true :=
  rfl

end Condition
end WorkflowEngine
