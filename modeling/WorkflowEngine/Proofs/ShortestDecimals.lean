import Mathlib.Algebra.Order.Field.Power
import Mathlib.Algebra.Order.Field.Rat
import Mathlib.Tactic.Linarith
import Mathlib.Tactic.Positivity
import Mathlib.Tactic.Ring
import WorkflowEngine.Decimal.Shortest

/-!
# Shortest decimals read back

The decimals that read back to a binary floating-point number form an interval around it,
and the intervals of different numbers have nothing in common.  The decimal that is selected
for a number is in its interval, so no two numbers have one decimal.
-/

namespace WorkflowEngine
namespace Decimal

/-! ## Exact comparisons -/

/-- The exact size of a decimal. -/
def Scaled.size (decimal : Scaled) : ℚ := decimal.digits * 10 ^ decimal.exponent

theorem two_zpow_pos (exponent : Int) : (0 : ℚ) < 2 ^ exponent := zpow_pos two_pos exponent

theorem zpow_mul_pow_neg {base : ℚ} (notZero : base ≠ 0) (exponent : Int) :
    base ^ exponent * base ^ (-exponent).toNat = base ^ exponent.toNat := by
  rw [← zpow_natCast, ← zpow_natCast, ← zpow_add₀ notZero]
  congr 1
  omega

theorem compare_mul_right {scale : ℚ} (positive : 0 < scale) (first second : ℚ) :
    compare (first * scale) (second * scale) = compare first second := by
  rcases lt_trichotomy first second with less | same | greater
  · rw [compare_lt_iff_lt.mpr less, compare_lt_iff_lt.mpr (mul_lt_mul_of_pos_right less positive)]
  · rw [same, compare_eq_iff_eq.mpr rfl, compare_eq_iff_eq.mpr rfl]
  · rw [compare_gt_iff_gt.mpr greater,
      compare_gt_iff_gt.mpr (mul_lt_mul_of_pos_right greater positive)]

theorem compare_cast (first second : Nat) :
    compare (first : ℚ) (second : ℚ) = compare first second := by
  rcases lt_trichotomy first second with less | same | greater
  · rw [compare_lt_iff_lt.mpr less, compare_lt_iff_lt.mpr (Nat.cast_lt.mpr less)]
  · rw [same, compare_eq_iff_eq.mpr rfl, compare_eq_iff_eq.mpr rfl]
  · rw [compare_gt_iff_gt.mpr greater, compare_gt_iff_gt.mpr (Nat.cast_lt.mpr greater)]

/-- Decimals and binary numbers are compared exactly. -/
theorem compareScaled_eq (digits significand : Nat) (high low : Int) :
    compareScaled digits high significand low =
      compare ((digits : ℚ) * 10 ^ high) (significand * 2 ^ low) := by
  have scale : (0 : ℚ) < 10 ^ (-high).toNat * 2 ^ (-low).toNat := by positivity
  have left : (digits : ℚ) * 10 ^ high * (10 ^ (-high).toNat * 2 ^ (-low).toNat) =
      (digits * 10 ^ high.toNat * 2 ^ (-low).toNat : ℕ) := by
    push_cast
    rw [← zpow_mul_pow_neg (by norm_num : (10 : ℚ) ≠ 0) high]
    ring
  have right : (significand : ℚ) * 2 ^ low * (10 ^ (-high).toNat * 2 ^ (-low).toNat) =
      (significand * 2 ^ low.toNat * 10 ^ (-high).toNat : ℕ) := by
    push_cast
    rw [← zpow_mul_pow_neg (by norm_num : (2 : ℚ) ≠ 0) low]
    ring
  rw [← compare_mul_right scale, left, right, compare_cast]
  rfl

namespace Binary

variable {value first second : Binary} {decimal : Scaled} {target : ℚ}

/-! ## The interval of a number -/

/-- The middle between a number and the one below it. -/
def low (value : Binary) : ℚ :=
  (if value.narrowBelow then 4 * value.significand - 1 else 4 * value.significand - 2 : Nat) *
    2 ^ (value.exponent - 2)

/-- The middle between a number and the one above it. -/
def high (value : Binary) : ℚ := (4 * value.significand + 2 : Nat) * 2 ^ (value.exponent - 2)

/-- What is rounded to a number: all that lies between the two middles, and these themselves
where the significand is even. -/
structure RoundsTo (value : Binary) (target : ℚ) : Prop where
  above : value.low < target ∨ value.significand % 2 = 0 ∧ value.low = target
  below : target < value.high ∨ value.significand % 2 = 0 ∧ target = value.high

theorem readsBack_iff : value.readsBack decimal = true ↔ value.RoundsTo decimal.size := by
  unfold readsBack
  dsimp only
  rw [compareScaled_eq, compareScaled_eq, Bool.and_eq_true_iff, Bool.or_eq_true_iff,
    Bool.or_eq_true_iff, Bool.and_eq_true_iff, Bool.and_eq_true_iff, beq_iff_eq, beq_iff_eq,
    beq_iff_eq, beq_iff_eq, beq_iff_eq, compare_gt_iff_gt, compare_eq_iff_eq, compare_lt_iff_lt,
    compare_eq_iff_eq]
  exact ⟨fun both => ⟨both.1.imp_right fun same => ⟨same.1, same.2.symm⟩, both.2⟩,
    fun rounds => ⟨rounds.above.imp_right fun same => ⟨same.1, same.2.symm⟩, rounds.below⟩⟩

/-- The forms of double-precision numbers, each of which has one. -/
structure IsDouble (value : Binary) : Prop where
  small : value.significand < 2 ^ 53
  least : -1074 ≤ value.exponent
  normal : value.exponent = -1074 ∨ 2 ^ 52 ≤ value.significand
  narrow : value.narrowBelow = true ↔ value.significand = 2 ^ 52 ∧ value.exponent ≠ -1074

/-- The interval of a number ends where that of a number with a larger exponent begins, or
before; and where it is the same point, it is no part of both. -/
theorem IsDouble.high_le_low_of_exponent
    (double : IsDouble first)
    (other : IsDouble second)
    (less : first.exponent < second.exponent) :
    first.high ≤ second.low ∧ (first.high = second.low → first.significand % 2 = 1) := by
  have raised : 2 ^ 52 ≤ second.significand :=
    other.normal.resolve_left (by have := double.least; omega)
  obtain ⟨more, same⟩ : ∃ more : Nat, second.exponent - 2 = first.exponent - 2 + (more + 1) :=
    ⟨(second.exponent - first.exponent - 1).toNat, by omega⟩
  have unit := two_zpow_pos (first.exponent - 2)
  have power : (2 : ℚ) ^ (second.exponent - 2) =
      (2 * 2 ^ more : Nat) * 2 ^ (first.exponent - 2) := by
    rw [same, zpow_add₀ two_ne_zero, zpow_add_one₀ two_ne_zero, zpow_natCast]
    push_cast
    ring
  unfold high low
  rw [power, ← mul_assoc, ← Nat.cast_mul, mul_le_mul_iff_left₀ unit, mul_left_inj' unit.ne',
    Nat.cast_le, Nat.cast_inj]
  have enough : 2 ^ 54 - 1 ≤
      if second.narrowBelow then 4 * second.significand - 1 else 4 * second.significand - 2 := by
    split
    next => omega
    next wide =>
      have := mt other.narrow.mpr wide
      have := double.least
      omega
  have least := Nat.mul_le_mul enough (Nat.mul_le_mul_left 2 (Nat.one_le_two_pow (n := more)))
  have := double.small
  omega

/-- The same for two numbers with one exponent. -/
theorem high_le_low_of_significand
    (level : first.exponent = second.exponent)
    (less : first.significand < second.significand) :
    first.high ≤ second.low ∧ (first.high = second.low →
      first.significand % 2 = 1 ∨ second.significand % 2 = 1) := by
  have unit := two_zpow_pos (second.exponent - 2)
  unfold high low
  rw [level, mul_le_mul_iff_left₀ unit, mul_left_inj' unit.ne', Nat.cast_le, Nat.cast_inj]
  split <;> omega

/-- Where one interval ends before another one, nothing is in both. -/
theorem not_roundsTo_of_high_le_low
    (apart : first.high ≤ second.low)
    (outside : first.high = second.low → first.significand % 2 = 1 ∨ second.significand % 2 = 1)
    (rounds : first.RoundsTo target)
    (rounds' : second.RoundsTo target) :
    False := by
  rcases rounds.below with below | ⟨even, same⟩
  · rcases rounds'.above with above | ⟨-, same⟩
    · exact absurd (below.trans_le apart) above.asymm
    · exact absurd (same ▸ below.trans_le apart) (lt_irrefl _)
  · rcases rounds'.above with above | ⟨even', same'⟩
    · exact absurd (same ▸ above) apart.not_gt
    · rcases outside (same.symm.trans same'.symm) with odd | odd <;> omega

/-- No point is in the intervals of two numbers. -/
theorem IsDouble.eq_of_roundsTo
    (double : IsDouble first)
    (other : IsDouble second)
    (rounds : first.RoundsTo target)
    (rounds' : second.RoundsTo target) :
    first = second := by
  have level : first.exponent = second.exponent := by
    rcases lt_trichotomy first.exponent second.exponent with less | same | greater
    · obtain ⟨apart, odd⟩ := double.high_le_low_of_exponent other less
      exact (not_roundsTo_of_high_le_low apart (.inl ∘ odd) rounds rounds').elim
    · exact same
    · obtain ⟨apart, odd⟩ := other.high_le_low_of_exponent double greater
      exact (not_roundsTo_of_high_le_low apart (.inl ∘ odd) rounds' rounds).elim
  have same : first.significand = second.significand := by
    rcases lt_trichotomy first.significand second.significand with less | same | greater
    · obtain ⟨apart, odd⟩ := high_le_low_of_significand level less
      exact (not_roundsTo_of_high_le_low apart odd rounds rounds').elim
    · exact same
    · obtain ⟨apart, odd⟩ := high_le_low_of_significand level.symm greater
      exact (not_roundsTo_of_high_le_low apart odd rounds' rounds).elim
  have narrow : first.narrowBelow = second.narrowBelow := by
    rw [Bool.eq_iff_iff, double.narrow, other.narrow, level, same]
  obtain ⟨_, _, _⟩ := first
  obtain ⟨_, _, _⟩ := second
  congr

/-! ## The selected decimal -/

/-- The exact size of a number. -/
def size (value : Binary) : ℚ := value.significand * 2 ^ value.exponent

/-- A number is in its own interval. -/
theorem roundsTo_size (value : Binary) : value.RoundsTo value.size := by
  have unit := two_zpow_pos (value.exponent - 2)
  have quarters : value.size = (4 * value.significand : Nat) * 2 ^ (value.exponent - 2) := by
    unfold size
    rw [zpow_sub₀ two_ne_zero]
    push_cast
    ring
  constructor
  · unfold low
    rw [quarters, mul_lt_mul_iff_left₀ unit, mul_left_inj' unit.ne', Nat.cast_lt, Nat.cast_inj]
    split <;> omega
  · left
    unfold high
    rw [quarters, mul_lt_mul_iff_left₀ unit, Nat.cast_lt]
    omega

theorem size_exact (value : Binary) : value.exact.size = value.size := by
  have whole := zpow_mul_pow_neg (two_ne_zero : (2 : ℚ) ≠ 0) value.exponent
  have tens : (10 : ℚ) ^ (-value.exponent).toNat =
      2 ^ (-value.exponent).toNat * 5 ^ (-value.exponent).toNat := by
    rw [← mul_pow]
    norm_num
  have positive : (0 : ℚ) < 10 ^ (-value.exponent).toNat := by positivity
  unfold Scaled.size exact size
  show ((value.significand * 2 ^ value.exponent.toNat * 5 ^ (-value.exponent).toNat : Nat) : ℚ) *
    10 ^ (-((-value.exponent).toNat : Int)) = _
  rw [zpow_neg, zpow_natCast, ← div_eq_mul_inv, div_eq_iff positive.ne', tens]
  push_cast
  rw [← whole]
  ring

theorem readsBack_of_candidate?
    {tie : Tie}
    {grid : Int}
    (selected : value.candidate? tie grid = some decimal) :
    value.readsBack decimal = true := by
  unfold candidate? at selected
  dsimp only at selected
  grind

end Binary

theorem Scaled.size_stripZeros (fuel : Nat) (decimal : Scaled) :
    (decimal.stripZeros fuel).size = decimal.size := by
  induction fuel generalizing decimal with
  | zero => rfl
  | succ fuel inductionHypothesis =>
    unfold stripZeros
    split
    next trailing =>
      rw [inductionHypothesis]
      obtain ⟨tens, same⟩ := Nat.dvd_of_mod_eq_zero trailing.2
      unfold Scaled.size
      dsimp only
      rw [same, Nat.mul_div_cancel_left _ (by omega), zpow_add_one₀ (by norm_num)]
      push_cast
      ring
    next => rfl

namespace Binary

/-- The decimal that is selected for a number is in the interval of the number. -/
theorem roundsTo_shortest (value : Binary) (tie : Tie) :
    value.RoundsTo (value.shortest tie).size := by
  unfold shortest
  split
  next zero =>
    have same : (⟨0, 0⟩ : Scaled).size = value.size := by simp [Scaled.size, size, zero]
    rw [same]
    exact value.roundsTo_size
  next =>
    dsimp only
    rw [Scaled.size_stripZeros]
    cases found : (List.range 17).findSome? fun count =>
        value.candidate? tie (value.scale - (count + 1 : Nat)) with
    | none =>
      rw [Option.getD_none, size_exact]
      exact value.roundsTo_size
    | some decimal =>
      obtain ⟨count, -, selected⟩ := List.exists_of_findSome?_eq_some found
      exact readsBack_iff.mp (readsBack_of_candidate? selected)

/-- The decimals that are selected for different numbers are different. -/
theorem IsDouble.eq_of_shortest
    {first second : Binary}
    (double : IsDouble first)
    (other : IsDouble second)
    (tie : Tie)
    (same : (first.shortest tie).size = (second.shortest tie).size) :
    first = second :=
  double.eq_of_roundsTo other (first.roundsTo_shortest tie) (same ▸ second.roundsTo_shortest tie)

end Binary
end Decimal
end WorkflowEngine
