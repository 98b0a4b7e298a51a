import WorkflowEngine.Proofs.OperatorLaws
import WorkflowEngine.Proofs.Rounding

/-!
# Comparing integers

The conditions compare two integers by the double-precision numbers next to them, so by
the integers rounded to 53 binary digits.  The answers are the exact ones unless two
different integers are rounded to the same number, and always exact up to 53 digits.
-/

namespace WorkflowEngine

open Double

/-- The comparisons of a field with an expected value answer as those of two integers. -/
structure AnswersAs
    (actual expected : Int)
    (answer : Operator → Except ConditionError Bool) : Prop where
  equals : answer .equals = .ok (decide (actual = expected))
  notEquals : answer .notEquals = .ok (decide (actual ≠ expected))
  greaterThan : answer .greaterThan = .ok (decide (actual > expected))
  lessThan : answer .lessThan = .ok (decide (actual < expected))
  greaterEqual : answer .greaterEqual = .ok (decide (actual ≥ expected))
  lessEqual : answer .lessEqual = .ok (decide (actual ≤ expected))

namespace AnswersAs

variable {actual expected low high : Int} {answer : Operator → Except ConditionError Bool}

/-- The answers tell in which order the integers are. -/
theorem compare_eq
    (answers : AnswersAs actual expected answer)
    (others : AnswersAs low high answer) :
    compare actual expected = compare low high := by
  have less : actual < expected ↔ low < high :=
    decide_eq_decide.mp (Except.ok.inj (answers.lessThan.symm.trans others.lessThan))
  have same : actual = expected ↔ low = high :=
    decide_eq_decide.mp (Except.ok.inj (answers.equals.symm.trans others.equals))
  have greater : actual > expected ↔ low > high :=
    decide_eq_decide.mp (Except.ok.inj (answers.greaterThan.symm.trans others.greaterThan))
  rcases lt_trichotomy low high with order | order | order
  · rw [compare_lt_iff_lt.mpr order, compare_lt_iff_lt.mpr (less.mpr order)]
  · rw [compare_eq_iff_eq.mpr order, compare_eq_iff_eq.mpr (same.mpr order)]
  · rw [compare_gt_iff_gt.mpr order, compare_gt_iff_gt.mpr (greater.mpr order)]

/-- Integers in the same order have the same answers. -/
theorem of_compare_eq
    (answers : AnswersAs low high answer)
    (same : compare actual expected = compare low high) :
    AnswersAs actual expected answer := by
  have equal : actual = expected ↔ low = high := by
    simpa only [compare_eq_iff_eq, eq_iff_iff] using congrArg (· = Ordering.eq) same
  have less : actual < expected ↔ low < high := by
    simpa only [compare_lt_iff_lt, eq_iff_iff] using congrArg (· = Ordering.lt) same
  have greater : actual > expected ↔ low > high := by
    simpa only [compare_gt_iff_gt, eq_iff_iff] using congrArg (· = Ordering.gt) same
  have atLeast : actual ≥ expected ↔ low ≥ high := by
    rw [ge_iff_le, ge_iff_le, ← not_lt, less, not_lt]
  have atMost : actual ≤ expected ↔ low ≤ high := by
    rw [← not_lt, ← not_lt]
    exact not_congr greater
  exact {
    equals := by rw [decide_eq_decide.mpr equal]; exact answers.equals
    notEquals := by rw [decide_eq_decide.mpr (not_congr equal)]; exact answers.notEquals
    greaterThan := by rw [decide_eq_decide.mpr greater]; exact answers.greaterThan
    lessThan := by rw [decide_eq_decide.mpr less]; exact answers.lessThan
    greaterEqual := by rw [decide_eq_decide.mpr atLeast]; exact answers.greaterEqual
    lessEqual := by rw [decide_eq_decide.mpr atMost]; exact answers.lessEqual }

end AnswersAs

/-! ## Rounding and order -/

/-- Rounded integers are in the order of the integers unless they have become one. -/
theorem Double.compare_rounded_eq_iff (first second : Int) :
    compare first second = compare (rounded first) (rounded second) ↔
      (rounded first = rounded second → first = second) := by
  constructor
  · intro same equal
    rwa [compare_eq_iff_eq.mpr equal, compare_eq_iff_eq] at same
  · intro apart
    rcases lt_trichotomy first second with less | rfl | greater
    · have strict := (rounded_mono less.le).lt_of_ne fun equal => less.ne (apart equal)
      rw [compare_lt_iff_lt.mpr less, compare_lt_iff_lt.mpr strict]
    · rw [compare_eq_iff_eq.mpr rfl, compare_eq_iff_eq.mpr rfl]
    · have strict := (rounded_mono greater.le).lt_of_ne fun equal =>
        greater.ne' (apart equal.symm)
      rw [compare_gt_iff_gt.mpr greater, compare_gt_iff_gt.mpr strict]

/-! ## Integers in conditions -/

section

variable
  {data : Json}
  {field : String}
  {actual expected : Int}
  (held : Number.inRange actual = true)
  (expects : Number.inRange expected = true)

include held expects

theorem Json.looselyEqual_ofInt :
    (Json.ofInt actual).looselyEqual (.ofInt expected) =
      decide (rounded actual = rounded expected) := by
  obtain ⟨finite, same⟩ := units_ofInt actual (Number.natAbs_lt_of_inRange held)
  obtain ⟨bounded, same'⟩ := units_ofInt expected (Number.natAbs_lt_of_inRange expects)
  have scale : (perOne : Int) ≠ 0 := Int.natCast_ne_zero.mpr perOne_pos.ne'
  show (Float.ofInt actual == Float.ofInt expected) = _
  rw [Bool.eq_iff_iff, beq_iff finite bounded, decide_eq_true_iff, same, same',
    Int.mul_eq_mul_right_iff scale]

theorem Json.order?_ofInt :
    (Json.ofInt actual).order? (.ofInt expected) =
      some (compare (rounded actual) (rounded expected)) := by
  obtain ⟨finite, same⟩ := units_ofInt actual (Number.natAbs_lt_of_inRange held)
  obtain ⟨bounded, same'⟩ := units_ofInt expected (Number.natAbs_lt_of_inRange expects)
  have scale : 0 < (perOne : Int) := Int.natCast_pos.mpr perOne_pos
  show Json.compareFloats (Float.ofInt actual) (Float.ofInt expected) = _
  rw [compareFloats_eq finite bounded, same, same']
  rcases lt_trichotomy (rounded actual) (rounded expected) with less | equal | greater
  · rw [compare_lt_iff_lt.mpr less,
      compare_lt_iff_lt.mpr (Int.mul_lt_mul_of_pos_right less scale)]
  · rw [equal, compare_eq_iff_eq.mpr rfl, compare_eq_iff_eq.mpr rfl]
  · rw [compare_gt_iff_gt.mpr greater,
      compare_gt_iff_gt.mpr (Int.mul_lt_mul_of_pos_right greater scale)]

/-- Two integers are compared by what they are rounded to. -/
theorem Operator.compare_ofInt :
    AnswersAs (rounded actual) (rounded expected) fun operator =>
      operator.compare (.ofInt actual) (.ofInt expected) := by
  have equal := Json.looselyEqual_ofInt held expects
  have order := Json.order?_ofInt held expects
  constructor
  case equals => exact congrArg Except.ok equal
  case notEquals => exact congrArg Except.ok ((congrArg not equal).trans decide_not.symm)
  all_goals
    unfold Operator.compare
    rw [order]
    rcases lt_trichotomy (rounded actual) (rounded expected) with less | same | greater
    · rw [compare_lt_iff_lt.mpr less]
      simp [less.le, less.not_ge, less.not_gt, less]
    · rw [compare_eq_iff_eq.mpr same]
      simp [same]
    · rw [compare_gt_iff_gt.mpr greater]
      simp [greater.le, greater.not_ge, greater.not_gt, greater]

theorem Operator.evaluate_ofInt
    (named : Text.isBlankText field = false)
    (reads : data.lookup (Text.trim field) = some (.ofInt actual)) :
    AnswersAs (rounded actual) (rounded expected) fun operator =>
      operator.evaluate field (.ofInt expected) data := by
  simp only [Operator.evaluate_of_lookup named reads]
  exact Operator.compare_ofInt held expects

/-- A field that holds an integer is compared with an integer as the two are rounded.  The
answers are exact unless the two are different and rounded to the same number. -/
theorem Operator.integers_compared
    (named : Text.isBlankText field = false)
    (reads : data.lookup (Text.trim field) = some (.ofInt actual)) :
    (AnswersAs (rounded actual) (rounded expected) fun operator =>
        operator.evaluate field (.ofInt expected) data) ∧
      ((AnswersAs actual expected fun operator =>
          operator.evaluate field (.ofInt expected) data) ↔
        (rounded actual = rounded expected → actual = expected)) ∧
      (actual.natAbs ≤ 2 ^ 53 → expected.natAbs ≤ 2 ^ 53 →
        AnswersAs actual expected fun operator =>
          operator.evaluate field (.ofInt expected) data) := by
  have answers := Operator.evaluate_ofInt held expects named reads
  refine ⟨answers, ⟨fun exact => ?_, fun apart => ?_⟩, fun small small' => ?_⟩
  · exact (compare_rounded_eq_iff actual expected).mp (exact.compare_eq answers)
  · exact answers.of_compare_eq ((compare_rounded_eq_iff actual expected).mpr apart)
  · rwa [rounded_of_natAbs_le small, rounded_of_natAbs_le small'] at answers

end

/-- A field that holds an integer of 54 binary digits. -/
def largeField : Json := .object [("x", .ofInt 9007199254740993)]

theorem lookup_largeField :
    largeField.lookup (Text.trim "x") = some (.ofInt 9007199254740993) := by
  cbv

theorem Operator.integers_compared_largeField :
    AnswersAs 9007199254740993 9007199254740995 fun operator =>
      operator.evaluate "x" (.ofInt 9007199254740995) largeField :=
  (Operator.integers_compared (by decide) (by decide) (by cbv) lookup_largeField).2.1.mpr
    (by decide)

/-- Two different integers that are rounded to the same number pass for equal. -/
theorem Operator.integers_confused :
    ¬AnswersAs 9007199254740993 9007199254740992 fun operator =>
      operator.evaluate "x" (.ofInt 9007199254740992) largeField := fun exact =>
  have answers := Operator.evaluate_ofInt (by decide) (by decide) (by cbv) lookup_largeField
  absurd ((compare_rounded_eq_iff _ _).mp (exact.compare_eq answers)) (by decide)

end WorkflowEngine
