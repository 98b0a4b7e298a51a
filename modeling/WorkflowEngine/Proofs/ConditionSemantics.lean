import WorkflowEngine.Condition

/-!
# The two semantics of conditions

Reading from left to right evaluates every condition of a list.  Where that succeeds, the
semantics of precedence has an answer too, and never a stricter one.  They agree where no
conjunction comes behind a disjunction.
-/

namespace WorkflowEngine

/-- Two answers, joined. -/
def Joiner.join : Joiner → Bool → Bool → Bool
  | .and, first, second => first && second
  | .or, first, second => first || second

namespace Condition

variable
  {data : Json}
  {condition : Condition}
  {conditions rest : List Condition}
  {result holds outcome value : Bool}
  {joiner : Joiner}

theorem joiner_of_closes (closes : condition.closesGroup = true) :
    condition.joiner.getD .and = .or := by
  rw [eq_of_beq closes]
  rfl

theorem joiner_of_open (stays : condition.closesGroup = false) :
    condition.joiner.getD .and = .and := by
  unfold closesGroup at stays
  cases joined : condition.joiner with
  | none => rfl
  | some joiner =>
    cases joiner with
    | and => rfl
    | or => simp [joined] at stays

/-! ## Single conditions -/

/-- Reading from left to right evaluates the first condition and joins its outcome. -/
theorem exists_outcome_of_foldLeft
    (folded : foldLeft data result joiner (condition :: rest) = .ok value) :
    ∃ outcome, condition.evaluate data = .ok outcome ∧
      foldLeft data (joiner.join result outcome) (condition.joiner.getD .and) rest =
        .ok value := by
  unfold foldLeft at folded
  split at folded
  next => cases folded
  next outcome evaluated =>
    refine ⟨outcome, evaluated, ?_⟩
    cases joiner <;> exact folded

/-- A condition that ends a group settles the list if the group holds. -/
theorem evaluateGroups_cons_of_closes
    (evaluated : condition.evaluate data = .ok outcome)
    (closes : (condition.closesGroup || rest.isEmpty) = true) :
    evaluateGroups data holds (condition :: rest) =
      if holds && outcome then .ok true else evaluateGroups data true rest := by
  rw [evaluateGroups, evaluated, closes]
  cases holds <;> rfl

/-- Any other condition is taken into account in its group. -/
theorem evaluateGroups_cons_of_open
    (evaluated : condition.evaluate data = .ok outcome)
    (stays : (condition.closesGroup || rest.isEmpty) = false) :
    evaluateGroups data holds (condition :: rest) =
      evaluateGroups data (holds && outcome) rest := by
  rw [evaluateGroups, evaluated, stays]
  cases holds <;> rfl

/-! ## Lists -/

/-- How the result so far from left to right relates to the group that is being read, as
long as no group has settled the list.  A group has just begun behind a disjunction, and
then the result so far is false. -/
inductive Within : (result holds : Bool) → Joiner → Prop
  | group
      {result holds : Bool}
      (weaker : result = true → holds = true) :
      Within result holds .and
  | start : Within false true .or

theorem Within.join
    (within : Within result holds joiner)
    (outcome : Bool)
    (joined : joiner.join result outcome = true) :
    (holds && outcome) = true := by
  cases within with
  | group weaker =>
    obtain ⟨so, rfl⟩ := Bool.and_eq_true_iff.mp joined
    rw [weaker so]
    rfl
  | start => exact joined

/-- Precedence succeeds where reading from left to right does, and it holds where that
holds. -/
theorem exists_evaluateGroups_of_foldLeft
    (nonempty : conditions ≠ [])
    (within : Within result holds joiner)
    (folded : foldLeft data result joiner conditions = .ok value) :
    ∃ answer, evaluateGroups data holds conditions = .ok answer ∧
      (value = true → answer = true) := by
  induction conditions generalizing result holds joiner with
  | nil => exact (nonempty rfl).elim
  | cons condition rest inductionHypothesis =>
    obtain ⟨outcome, evaluated, folded⟩ := exists_outcome_of_foldLeft folded
    have joined := within.join outcome
    cases closes : condition.closesGroup || rest.isEmpty with
    | true =>
      rw [evaluateGroups_cons_of_closes evaluated closes]
      cases held : holds && outcome with
      | true => exact ⟨true, rfl, fun _ => rfl⟩
      | false =>
        -- The list goes on with a new group, for which everything so far counts as false.
        have failed : joiner.join result outcome = false := by
          cases succeeded : joiner.join result outcome with
          | false => rfl
          | true => exact (joined succeeded).symm.trans held
        rw [failed] at folded
        by_cases last : rest = []
        · subst last
          cases folded
          exact ⟨false, rfl, id⟩
        · rw [joiner_of_closes (by simpa [last] using closes)] at folded
          exact inductionHypothesis last .start folded
    | false =>
      obtain ⟨stays, more⟩ := Bool.or_eq_false_iff.mp closes
      rw [evaluateGroups_cons_of_open evaluated closes]
      rw [joiner_of_open stays] at folded
      exact inductionHypothesis (List.isEmpty_eq_false_iff.mp more) (.group joined) folded

/-! ## Conjunctions before disjunctions -/

/-- Nothing but disjunctions joins the conditions.  What the last one is joined by does
not matter. -/
def OnlyDisjunctions (conditions : List Condition) : Prop :=
  ∀ condition ∈ conditions.dropLast, condition.joiner = some .or

/-- No conjunction joins conditions behind a disjunction. -/
def ConjunctionsFirst (conditions : List Condition) : Prop :=
  conditions.dropLast.Pairwise fun first second =>
    first.joiner = some .or → second.joiner = some .or

theorem OnlyDisjunctions.cons
    (more : rest ≠ [])
    (only : OnlyDisjunctions (condition :: rest)) :
    condition.joiner = some .or ∧ OnlyDisjunctions rest := by
  unfold OnlyDisjunctions at only
  rw [List.dropLast_cons_of_ne_nil more] at only
  exact List.forall_mem_cons.mp only

theorem ConjunctionsFirst.cons
    (more : rest ≠ [])
    (ordered : ConjunctionsFirst (condition :: rest)) :
    (condition.joiner = some .or → OnlyDisjunctions rest) ∧ ConjunctionsFirst rest := by
  unfold ConjunctionsFirst at ordered
  rw [List.dropLast_cons_of_ne_nil more, List.pairwise_cons] at ordered
  exact ⟨fun disjoined later member => ordered.1 later member disjoined, ordered.2⟩

/-- A result that holds goes on holding. -/
theorem eq_true_of_foldLeft
    (only : OnlyDisjunctions conditions)
    (folded : foldLeft data true .or conditions = .ok value) :
    value = true := by
  induction conditions with
  | nil =>
    cases folded
    rfl
  | cons condition rest inductionHypothesis =>
    obtain ⟨outcome, -, folded⟩ := exists_outcome_of_foldLeft folded
    by_cases last : rest = []
    · subst last
      cases folded
      rfl
    · obtain ⟨disjoined, only⟩ := only.cons last
      rw [disjoined] at folded
      exact inductionHypothesis only folded

/-- As `Within`, where no conjunction comes behind a disjunction: the result so far tells
whether the first group holds, and behind it every condition is a group. -/
inductive Alike (conditions : List Condition) : (result holds : Bool) → Joiner → Prop
  | group
      {holds : Bool}
      (ordered : ConjunctionsFirst conditions) :
      Alike conditions holds holds .and
  | start
      (only : OnlyDisjunctions conditions) :
      Alike conditions false true .or

theorem Alike.join
    (alike : Alike conditions result holds joiner)
    (outcome : Bool) :
    joiner.join result outcome = (holds && outcome) := by
  cases alike with
  | group => rfl
  | start => rfl

theorem Alike.onlyDisjunctions
    (alike : Alike (condition :: rest) result holds joiner)
    (more : rest ≠ [])
    (disjoined : condition.joiner = some .or) :
    OnlyDisjunctions rest := by
  cases alike with
  | group ordered => exact (ordered.cons more).1 disjoined
  | start only => exact (only.cons more).2

theorem Alike.conjunctionsFirst
    (alike : Alike (condition :: rest) result holds joiner)
    (more : rest ≠ [])
    (stays : condition.closesGroup = false) :
    ConjunctionsFirst rest := by
  cases alike with
  | group ordered => exact (ordered.cons more).2
  | start only => simp [closesGroup, (only.cons more).1] at stays

/-- In that case both ways have the same answer. -/
theorem evaluateGroups_eq_of_foldLeft
    (nonempty : conditions ≠ [])
    (alike : Alike conditions result holds joiner)
    (folded : foldLeft data result joiner conditions = .ok value) :
    evaluateGroups data holds conditions = .ok value := by
  induction conditions generalizing result holds joiner with
  | nil => exact (nonempty rfl).elim
  | cons condition rest inductionHypothesis =>
    obtain ⟨outcome, evaluated, folded⟩ := exists_outcome_of_foldLeft folded
    rw [alike.join] at folded
    cases closes : condition.closesGroup || rest.isEmpty with
    | true =>
      rw [evaluateGroups_cons_of_closes evaluated closes]
      by_cases last : rest = []
      · subst last
        cases folded
        cases holds && outcome <;> rfl
      · have disjoined : condition.joiner = some .or := by
          simpa [last, closesGroup] using closes
        have only := alike.onlyDisjunctions last disjoined
        rw [disjoined] at folded
        cases held : holds && outcome with
        | true =>
          -- The group settles the list, and no conjunction is left to undo it.
          rw [held] at folded
          rw [eq_true_of_foldLeft only folded]
          rfl
        | false =>
          rw [held] at folded
          exact inductionHypothesis last (.start only) folded
    | false =>
      obtain ⟨stays, more⟩ := Bool.or_eq_false_iff.mp closes
      have more := List.isEmpty_eq_false_iff.mp more
      rw [evaluateGroups_cons_of_open evaluated closes]
      rw [joiner_of_open stays] at folded
      exact inductionHypothesis more (.group (alike.conjunctionsFirst more stays)) folded

/-- Where reading from left to right has an answer, precedence has one too.  It is never
the stricter one, and it is the same if no conjunction comes behind a disjunction. -/
theorem evaluateAll_precedence_of_leftFold
    (folded : evaluateAll .leftFold conditions data = .ok value) :
    ∃ answer, evaluateAll .precedence conditions data = .ok answer ∧
      (value = true → answer = true) ∧
      (ConjunctionsFirst conditions → answer = value) := by
  unfold evaluateAll at folded ⊢
  by_cases empty : conditions = []
  · subst empty
    cases folded
    exact ⟨true, rfl, fun _ => rfl, fun _ => rfl⟩
  · dsimp only at folded ⊢
    rw [if_neg (by simpa using empty)]
    obtain ⟨answer, answered, lenient⟩ :=
      exists_evaluateGroups_of_foldLeft empty (.group id) folded
    refine ⟨answer, answered, lenient, fun ordered => ?_⟩
    have same := evaluateGroups_eq_of_foldLeft empty (.group ordered) folded
    exact Except.ok.inj (answered.symm.trans same)

/-- A comparison of the status. -/
def statusIs (expected : String) (joiner : Option Joiner) : Condition :=
  { field := "status", operator := .equals, value := .text expected, joiner }

theorem evaluateAll_precedence_of_leftFold_status :
    ConjunctionsFirst
      [statusIs "open" none, statusIs "closed" (some .or), statusIs "open" (some .or),
        statusIs "closed" none] ∧
    ∃ answer,
      evaluateAll .precedence
        [statusIs "open" none, statusIs "closed" (some .or), statusIs "open" (some .or),
          statusIs "closed" none]
        (.object [("status", .text "open")]) = .ok answer ∧
      (true = true → answer = true) ∧
      (ConjunctionsFirst
        [statusIs "open" none, statusIs "closed" (some .or), statusIs "open" (some .or),
          statusIs "closed" none] → answer = true) :=
  ⟨by simp [ConjunctionsFirst, statusIs], evaluateAll_precedence_of_leftFold rfl⟩

-- Behind a disjunction a conjunction binds tighter, and only precedence answers it with true.
example :
    evaluateAll .leftFold
      [statusIs "open" (some .or), statusIs "closed" none, statusIs "closed" none]
      (.object [("status", .text "open")]) = .ok false ∧
    evaluateAll .precedence
      [statusIs "open" (some .or), statusIs "closed" none, statusIs "closed" none]
      (.object [("status", .text "open")]) = .ok true :=
  ⟨rfl, rfl⟩

end Condition
end WorkflowEngine
