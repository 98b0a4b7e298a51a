import WorkflowEngine.Proofs.Doubles

/-!
# Laws of the operators

A field that leads nowhere is null and passes no other test, the negated ones included.  On
a value that is there each negated operator says the opposite of its plain one, and the four
comparisons of order fit together.  Two values need not have an order: it is missing between
values of different kinds, and next to NaN, which a text can name.
-/

namespace WorkflowEngine

/-- One of two tests holds and the other one fails. -/
def Complementary (first second : Except ConditionError Bool) : Prop :=
  ∃ value, first = .ok value ∧ second = .ok (!value)

/-- How the four comparisons of order fit together. -/
structure OrderLaws (greater less atLeast atMost : Bool) : Prop where
  exclusive : ¬(greater = true ∧ less = true)
  atLeast_iff : atLeast = true ↔ greater = true ∨ (atLeast = true ∧ atMost = true)
  atMost_iff : atMost = true ↔ less = true ∨ (atLeast = true ∧ atMost = true)
  /-- Either the two values have no order, or the comparisons that allow for equality are
  the negations of the opposite strict ones. -/
  total :
    (greater = false ∧ less = false ∧ atLeast = false ∧ atMost = false) ∨
      (atLeast = !less ∧ atMost = !greater)

/-- Two values without an order: numbers, or texts that read as numbers, of which one is
NaN, or values of which one does not read as a number and one is not a text. -/
inductive Json.Unordered (first second : Json) : Prop
  | notANumber
      {value other : Float}
      (reads : first.asNumber? = some value)
      (reads' : second.asNumber? = some other)
      (stray : value.isNaN = true ∨ other.isNaN = true)
  | unlike
      (unread : first.asNumber? = none ∨ second.asNumber? = none)
      (kinds : ∀ content other, ¬(first = .text content ∧ second = .text other))

/-- The laws of the answers that the operators give on one value. -/
structure LawfulAnswers
    (actual expected : Json)
    (answer : Operator → Except ConditionError Bool) : Prop where
  equality : Complementary (answer .equals) (answer .notEquals)
  containment : Complementary (answer .contains) (answer .notContains)
  membership : Complementary (answer .isIn) (answer .notIn)
  nullity : Complementary (answer .isNull) (answer .isNotNull)
  order :
    ∃ greater less atLeast atMost,
      answer .greaterThan = .ok greater ∧
        answer .lessThan = .ok less ∧
        answer .greaterEqual = .ok atLeast ∧
        answer .lessEqual = .ok atMost ∧
        OrderLaws greater less atLeast atMost
  /-- All four comparisons of order fail exactly on values without one. -/
  unordered_iff :
    (∀ operator ∈ [Operator.greaterThan, .lessThan, .greaterEqual, .lessEqual],
      answer operator = .ok false) ↔ actual.Unordered expected
  /-- Comparing the other way round turns the comparisons of order round. -/
  mirrored :
    Operator.greaterThan.compare expected actual = answer .lessThan ∧
      Operator.greaterEqual.compare expected actual = answer .lessEqual

/-- The laws of the tests of one field against one expected value. -/
structure FieldLaws (field : String) (expected data : Json) : Prop where
  /-- Nothing but the test for null holds on a field that leads nowhere. -/
  undefined :
    Text.isBlankText field = false →
    data.lookup (Text.trim field) = none →
    ∀ operator : Operator,
      operator.evaluate field expected data = .ok (decide (operator = .isNull))
  defined (actual : Json) :
    Text.isBlankText field = false →
    data.lookup (Text.trim field) = some actual →
    LawfulAnswers actual expected fun operator => operator.evaluate field expected data
  errors (operator : Operator) (error : ConditionError) :
    operator.evaluate field expected data = .error error →
    Text.isBlankText field = true ∨
      (operator = .regexMatch ∧ ∃ actual, data.lookup (Text.trim field) = some actual)

/-! ## The order of two values -/

namespace Json

/-- The order of two texts by their characters. -/
def textOrder? : Json → Json → Option Ordering
  | .text first, .text second => some (compare first second)
  | _, _ => none

section

variable {first second : Json} {value other : Float}

/-- Values that read as numbers are compared as numbers. -/
theorem order?_of_numbers
    (reads : first.asNumber? = some value)
    (reads' : second.asNumber? = some other) :
    first.order? second = value.toModel.unpack.compare other.toModel.unpack := by
  unfold order?
  rw [reads, reads']
  exact Double.compareFloats_eq_compare value other

/-- If one value does not read as a number, only texts are compared. -/
theorem order?_of_text (unread : first.asNumber? = none ∨ second.asNumber? = none) :
    first.order? second = first.textOrder? second := by
  unfold order?
  rcases unread with unread | unread <;> rw [unread]
  · rfl
  · cases first.asNumber? <;> rfl

end

/-- The order of texts is reversed with the two texts. -/
theorem textOrder?_swap (first second : Json) :
    second.textOrder? first = (first.textOrder? second).map Ordering.swap := by
  cases first <;> cases second <;> try rfl
  exact congrArg some Std.OrientedCmp.eq_swap

theorem textOrder?_eq_none_iff (first second : Json) :
    first.textOrder? second = none ↔
      ∀ content other, ¬(first = .text content ∧ second = .text other) := by
  cases first <;> cases second <;> simp [textOrder?]

/-- Compared the other way round, values have the opposite order. -/
theorem order?_swap (first second : Json) :
    second.order? first = (first.order? second).map Ordering.swap := by
  cases reads : first.asNumber? with
  | none =>
    rw [order?_of_text (.inl reads), order?_of_text (.inr reads)]
    exact textOrder?_swap first second
  | some value =>
    cases reads' : second.asNumber? with
    | none =>
      rw [order?_of_text (.inl reads'), order?_of_text (.inr reads')]
      exact textOrder?_swap first second
    | some other =>
      rw [order?_of_numbers reads reads', order?_of_numbers reads' reads]
      exact Double.compare_swap _ _

/-- An order is missing exactly next to NaN and between values that are unlike. -/
theorem order?_eq_none_iff (first second : Json) :
    first.order? second = none ↔ first.Unordered second := by
  cases reads : first.asNumber? with
  | none =>
    rw [order?_of_text (.inl reads), textOrder?_eq_none_iff]
    refine ⟨.unlike (.inl reads), fun unordered => ?_⟩
    cases unordered with
    | notANumber found => cases reads.symm.trans found
    | unlike _ kinds => exact kinds
  | some value =>
    cases reads' : second.asNumber? with
    | none =>
      rw [order?_of_text (.inr reads'), textOrder?_eq_none_iff]
      refine ⟨.unlike (.inr reads'), fun unordered => ?_⟩
      cases unordered with
      | notANumber _ found => cases reads'.symm.trans found
      | unlike _ kinds => exact kinds
    | some other =>
      rw [order?_of_numbers reads reads', Double.compare_eq_none_iff]
      refine ⟨.notANumber reads reads', fun unordered => ?_⟩
      cases unordered with
      | notANumber found found' stray =>
        cases reads.symm.trans found
        cases reads'.symm.trans found'
        exact stray
      | unlike unread =>
        rcases unread with unread | unread
        · cases reads.symm.trans unread
        · cases reads'.symm.trans unread

end Json

/-! ## Operators -/

/-- What the four comparisons make of an order, or of none, is lawful. -/
theorem OrderLaws.of_order (order : Option Ordering) :
    OrderLaws (order == some .gt) (order == some .lt)
      (order == some .gt || order == some .eq) (order == some .lt || order == some .eq) := by
  rcases order with - | (- | - | -) <;> constructor <;> decide

namespace Operator

variable
  {field : String}
  {operator : Operator}
  {actual expected data : Json}
  {error : ConditionError}

/-- The test for null is the only one that passes without a value. -/
theorem onUndefined_eq (operator : Operator) :
    operator.onUndefined = decide (operator = .isNull) := by
  cases operator <;> rfl

/-- No comparison fails but that with a pattern. -/
theorem eq_regexMatch_of_compare_eq_error
    (failed : operator.compare actual expected = .error error) :
    operator = .regexMatch := by
  cases operator <;> first | rfl | cases failed

/-- The comparisons of order fail together exactly where there is no order. -/
theorem compare_eq_false_iff (actual expected : Json) :
    (∀ operator ∈ [Operator.greaterThan, .lessThan, .greaterEqual, .lessEqual],
      operator.compare actual expected = .ok false) ↔ actual.order? expected = none := by
  simp only [List.forall_mem_cons, List.not_mem_nil, false_implies, implies_true, compare,
    Except.ok.injEq]
  rcases actual.order? expected with - | (- | - | -) <;> decide

/-- Comparing the other way round turns the comparisons of order round. -/
theorem compare_swap (actual expected : Json) :
    Operator.greaterThan.compare expected actual = Operator.lessThan.compare actual expected ∧
      Operator.greaterEqual.compare expected actual =
        Operator.lessEqual.compare actual expected := by
  unfold compare
  rw [actual.order?_swap expected]
  rcases actual.order? expected with - | (- | - | -) <;> exact ⟨rfl, rfl⟩

/-- The answers on two values that are there obey the laws. -/
theorem compare_lawful (actual expected : Json) :
    LawfulAnswers actual expected fun operator => operator.compare actual expected where
  equality := ⟨_, rfl, rfl⟩
  containment := ⟨_, rfl, rfl⟩
  membership := ⟨_, rfl, rfl⟩
  nullity := ⟨_, rfl, rfl⟩
  order := ⟨_, _, _, _, rfl, rfl, rfl, rfl, .of_order (actual.order? expected)⟩
  unordered_iff :=
    (compare_eq_false_iff actual expected).trans (actual.order?_eq_none_iff expected)
  mirrored := compare_swap actual expected

/-! ## Evaluation -/

/-- Without a value it is up to the operator alone. -/
theorem evaluate_of_lookup_eq_none
    (named : Text.isBlankText field = false)
    (missing : data.lookup (Text.trim field) = none) :
    operator.evaluate field expected data = .ok operator.onUndefined := by
  unfold evaluate
  rw [named, missing]
  rfl

/-- A value that is there is compared. -/
theorem evaluate_of_lookup
    (named : Text.isBlankText field = false)
    (found : data.lookup (Text.trim field) = some actual) :
    operator.evaluate field expected data = operator.compare actual expected := by
  unfold evaluate
  rw [named, found]
  rfl

/-- The laws hold for every field, expected value and data. -/
theorem evaluate_lawful (field : String) (expected data : Json) :
    FieldLaws field expected data where
  undefined := by
    intro named missing operator
    rw [evaluate_of_lookup_eq_none named missing, onUndefined_eq]
  defined := by
    intro actual named found
    simp only [evaluate_of_lookup named found]
    exact compare_lawful actual expected
  errors := by
    intro operator error failed
    cases named : Text.isBlankText field with
    | true => exact .inl rfl
    | false =>
      refine .inr ?_
      cases found : data.lookup (Text.trim field) with
      | none =>
        rw [evaluate_of_lookup_eq_none named found] at failed
        cases failed
      | some actual =>
        rw [evaluate_of_lookup named found] at failed
        exact ⟨eq_regexMatch_of_compare_eq_error failed, actual, rfl⟩

end Operator

/-- Data with a text that reads as NaN. -/
def strayReading : Json := .object [("amount", .text "NaN")]

theorem Operator.evaluate_lawful_strayReading :
    LawfulAnswers (.text "NaN") (.ofInt 1)
        (fun operator => operator.evaluate " amount " (.ofInt 1) strayReading) ∧
      Operator.evaluate .notIn " total " (.ofInt 1) strayReading = .ok false :=
  ⟨(Operator.evaluate_lawful " amount " (.ofInt 1) strayReading).defined (.text "NaN")
      (by cbv) (by cbv),
    (Operator.evaluate_lawful " total " (.ofInt 1) strayReading).undefined
      (by cbv) (by cbv) .notIn⟩

example : (Json.text "NaN").order? (.ofInt 1) = none := by rfl

end WorkflowEngine
