import Mathlib.Data.Nat.Log
import WorkflowEngine.Decimal.Fixed
import WorkflowEngine.Proofs.Doubles

/-!
# Integers as double-precision numbers

An integer of more than 53 binary digits becomes the nearest double-precision number,
which is the integer rounded to 53 digits.
-/

namespace WorkflowEngine
namespace Double

open Float.Model Float.Model.UnpackedFloat

/-! ## Dropping digits -/

/-- What is left of a significand when digits are dropped, with the two marks by which it
is rounded: whether the dropped part is at least a half, and whether it is neither nothing
nor a half. -/
theorem shiftRight_eq (significand count : Nat) :
    ExtendedMantissa.ofMantissaAndAccuracy significand .exact >>> count =
      ⟨significand / 2 ^ count, decide (2 ^ count ≤ 2 * (significand % 2 ^ count)),
        decide (significand % 2 ^ count ≠ 0 ∧ 2 * (significand % 2 ^ count) ≠ 2 ^ count)⟩ := by
  show Nat.repeat _ count _ = _
  induction count with
  | zero => simp [Nat.repeat, ExtendedMantissa.ofMantissaAndAccuracy, Nat.mod_one]
  | succ count inductionHypothesis =>
    have dropped : significand % 2 ^ count < 2 ^ count := Nat.mod_lt _ (Nat.two_pow_pos count)
    have more : significand % 2 ^ (count + 1) =
        significand % 2 ^ count + 2 ^ count * (significand / 2 ^ count % 2) := by
      rw [Nat.pow_succ, Nat.mod_mul]
    have fewer : significand / 2 ^ (count + 1) = significand / 2 ^ count / 2 := by
      rw [Nat.div_div_eq_div_mul, Nat.pow_succ]
    rw [Nat.repeat, inductionHypothesis, more, fewer, Nat.pow_succ]
    generalize significand % 2 ^ count = rest at *
    rcases Nat.mod_two_eq_zero_or_one (significand / 2 ^ count) with even | odd
    · simp only [ExtendedMantissa.shiftRightOne, even, ExtendedMantissa.mk.injEq, true_and]
      grind
    · simp only [ExtendedMantissa.shiftRightOne, odd, ExtendedMantissa.mk.injEq, true_and]
      grind

/-- A significand of which digits are dropped is rounded to the nearest one. -/
theorem roundedMantissa_shiftRight (significand count : Nat) :
    (ExtendedMantissa.ofMantissaAndAccuracy significand .exact >>> count).roundedMantissa =
      Decimal.roundQuotient significand (2 ^ count) := by
  have unit : 0 < 2 ^ count := Nat.two_pow_pos count
  rw [shiftRight_eq]
  unfold Decimal.roundQuotient ExtendedMantissa.roundedMantissa
  generalize significand % 2 ^ count = rest
  dsimp only
  rcases Nat.lt_trichotomy (2 * rest) (2 ^ count) with below | half | above
  · rw [if_pos below, decide_eq_false (Nat.not_le_of_lt below)]
    cases decide (rest ≠ 0 ∧ 2 * rest ≠ 2 ^ count) <;> rfl
  · rw [if_neg half.not_lt, if_neg half.not_gt, decide_eq_true half.ge,
      decide_eq_false fun both => both.2 half]
    rfl
  · rw [if_neg above.asymm, if_pos above, decide_eq_true above.le,
      decide_eq_true ⟨by omega, above.ne'⟩]
    rfl

/-! ## Rounding -/

/-- Rounding never goes below the whole part of a quotient. -/
theorem div_le_roundQuotient (numerator denominator : Nat) :
    numerator / denominator ≤ Decimal.roundQuotient numerator denominator := by
  unfold Decimal.roundQuotient
  grind

/-- Rounding goes up by one at most. -/
theorem roundQuotient_le (numerator denominator : Nat) :
    Decimal.roundQuotient numerator denominator ≤ numerator / denominator + 1 := by
  unfold Decimal.roundQuotient
  grind

/-- All digits beyond the 53 first ones are shifted out, unless the number is subnormal. -/
theorem shiftToTargetExponent_eq
    {significand : Nat}
    {exponent : Int}
    (count : Nat)
    (digits : significand.log2 = 52 + count)
    (least : -1074 ≤ exponent + count) :
    shiftToTargetExponent .binary64 significand exponent .exact =
      (ExtendedMantissa.ofMantissaAndAccuracy significand .exact >>> count, exponent + count) := by
  have target : Format.binary64.targetExponent (totalExponent significand exponent) =
      exponent + count := by
    have width : ((Format.binary64.mantissaBits : Nat) : Int) = 53 := rfl
    have lowest : Format.binary64.minExponent = -1074 := rfl
    unfold Format.targetExponent totalExponent
    omega
  have shift : (exponent + count - exponent).toNat = count := by omega
  unfold shiftToTargetExponent shiftToExponent
  dsimp only
  rw [target, shift]

/-- A significand with at least 53 digits is rounded to 53 of them. -/
theorem exists_roundWithAccuracy
    {significand count : Nat}
    {exponent : Int}
    (sign : Sign)
    (digits : significand.log2 = 52 + count)
    (least : -1074 ≤ exponent + count) :
    ∃ rounded raised positive,
      roundWithAccuracy .binary64 sign significand exponent .exact =
        .finite sign rounded raised positive ∧
      2 ^ 52 ≤ rounded ∧ rounded < 2 ^ 53 ∧
      exponent + count ≤ raised ∧ raised ≤ exponent + count + 1 ∧
      magnitude rounded raised =
        Decimal.roundQuotient significand (2 ^ count) * 2 ^ (exponent + count + 1074).toNat := by
  have notZero : significand ≠ 0 := by
    rintro rfl
    rw [Nat.log2_zero] at digits
    omega
  have lower : 2 ^ 52 ≤ significand / 2 ^ count := by
    rw [Nat.le_div_iff_mul_le (Nat.two_pow_pos _), ← Nat.pow_add, ← digits]
    exact Nat.log2_self_le notZero
  have upper : significand / 2 ^ count < 2 ^ 53 := by
    rw [Nat.div_lt_iff_lt_mul (Nat.two_pow_pos _), ← Nat.pow_add]
    exact (Nat.log2_lt notZero).mp (by omega)
  have above := div_le_roundQuotient significand (2 ^ count)
  have below := roundQuotient_le significand (2 ^ count)
  have rounds := roundedMantissa_shiftRight significand count
  unfold roundWithAccuracy
  rw [shiftToTargetExponent_eq count digits least]
  dsimp only
  rw [rounds]
  generalize Decimal.roundQuotient significand (2 ^ count) = quotient at *
  rcases Nat.lt_or_ge quotient (2 ^ 53) with short | full
  · have positive : 0 < quotient := by omega
    rw [shiftToTargetExponent_eq 0 (log2_eq_of_bounds (by omega) short) (by omega),
      shiftRight_eq]
    simp only [pow_zero, Nat.div_one]
    refine ⟨quotient, _, positive, dif_neg positive.ne', by omega, short, by omega, by omega, ?_⟩
    simp [magnitude]
  · -- The rounding has carried over into one more digit, which is zero.
    obtain rfl : quotient = 2 ^ 53 := by omega
    rw [shiftToTargetExponent_eq 1 Nat.log2_two_pow (by omega), shiftRight_eq]
    refine ⟨2 ^ 52, _, Nat.two_pow_pos _, dif_neg (Nat.two_pow_pos 52).ne', by omega, by omega,
      by omega, by omega, ?_⟩
    unfold magnitude
    rw [← Nat.pow_add, ← Nat.pow_add]
    congr 1
    omega

/-! ## Integers -/

/-- Two positive numbers are multiplied exactly, and the product is rounded once. -/
theorem mul_finite
    {first second : Nat}
    {low high : Int}
    (positive : 0 < first)
    (other : 0 < second) :
    UnpackedFloat.mul .binary64 (.finite .positive first low positive)
        (.finite .positive second high other) =
      roundWithAccuracy .binary64 .positive (first * second) (low + high) .exact :=
  rfl

/-- An integer without an exponent is shifted to 53 more digits before it is rounded. -/
theorem ofScientific_zero {value : Nat} (notZero : value ≠ 0) :
    UnpackedFloat.ofScientific .binary64 value 0 =
      roundWithAccuracy .binary64 .positive (value * 2 ^ 53) (-53) .exact := by
  have width : Format.binary64.mantissaBits = 53 := rfl
  have least : ¬(0 : Int) < -((2 : Int) ^ Format.binary64.exponentBits + value.log2) := by
    have : (2 : Int) ^ Format.binary64.exponentBits = 2048 := rfl
    omega
  unfold UnpackedFloat.ofScientific
  rw [dif_neg notZero, if_neg (by decide), if_neg least, if_pos le_rfl, mul_finite, width,
    Nat.shiftLeft_eq, Int.toNat_zero, Nat.pow_zero, Nat.mul_one, Int.add_zero]
  rfl

/-- A natural number rounded to 53 binary digits, half a unit to the even neighbour. -/
def roundNat (value : Nat) : Nat :=
  let unit := 2 ^ (value.log2 - 52)
  Decimal.roundQuotient value unit * unit

/-- An integer rounded to 53 binary digits. -/
def rounded : Int → Int
  | .ofNat value => roundNat value
  | .negSucc value => -roundNat (value + 1)

theorem roundQuotient_one (value : Nat) : Decimal.roundQuotient value 1 = value := by
  unfold Decimal.roundQuotient
  simp [Nat.mod_one]

/-- Rounding depends on the quotient alone, not on its terms. -/
theorem roundQuotient_mul_right
    {scale : Nat}
    (positive : 0 < scale)
    (numerator denominator : Nat) :
    Decimal.roundQuotient (numerator * scale) (denominator * scale) =
      Decimal.roundQuotient numerator denominator := by
  unfold Decimal.roundQuotient
  simp only [Nat.mul_div_mul_right _ _ positive, Nat.mul_mod_mul_right, ← Nat.mul_assoc,
    Nat.mul_lt_mul_right positive]

theorem log2_mul_two_pow {value : Nat} (notZero : value ≠ 0) (count : Nat) :
    (value * 2 ^ count).log2 = value.log2 + count := by
  induction count with
  | zero => simp
  | succ count inductionHypothesis =>
    have filled : value * 2 ^ count ≠ 0 := Nat.mul_ne_zero notZero (Nat.two_pow_pos _).ne'
    rw [Nat.pow_succ, ← Nat.mul_assoc, Nat.mul_comm _ 2, Nat.log2_two_mul filled,
      inductionHypothesis]
    rfl

/-- An integer of 53 digits at most is kept. -/
theorem roundNat_of_lt {value : Nat} (small : value < 2 ^ 53) : roundNat value = value := by
  have digits : value.log2 - 52 = 0 := by
    rcases Nat.eq_zero_or_pos value with rfl | positive
    · rfl
    · have := (Nat.log2_lt positive.ne').mpr small
      omega
  unfold roundNat
  rw [digits]
  simp [roundQuotient_one]

/-- Rounding keeps the order. -/
theorem roundQuotient_le_roundQuotient
    {first second denominator : Nat}
    (order : first ≤ second) :
    Decimal.roundQuotient first denominator ≤ Decimal.roundQuotient second denominator := by
  rcases (Nat.div_le_div_right order : first / denominator ≤ second / denominator).lt_or_eq with
    less | same
  · calc Decimal.roundQuotient first denominator
      _ ≤ first / denominator + 1 := roundQuotient_le _ _
      _ ≤ second / denominator := less
      _ ≤ Decimal.roundQuotient second denominator := div_le_roundQuotient _ _
  · have split := Nat.div_add_mod first denominator
    have split' := Nat.div_add_mod second denominator
    have rest : first % denominator ≤ second % denominator := by
      rw [same] at split
      omega
    unfold Decimal.roundQuotient
    rw [same]
    grind

/-- A smaller number is not rounded to a larger one. -/
theorem roundNat_le_roundNat {first second : Nat} (order : first ≤ second) :
    roundNat first ≤ roundNat second := by
  have digits : first.log2 - 52 ≤ second.log2 - 52 := by
    rw [Nat.log2_eq_log_two, Nat.log2_eq_log_two]
    exact Nat.sub_le_sub_right (Nat.log_mono_right order) 52
  unfold roundNat
  rcases digits.lt_or_eq with less | same
  · -- A power of two lies between the two, and is not rounded.
    have above : first < 2 ^ 53 * 2 ^ (first.log2 - 52) := by
      rw [← Nat.pow_add]
      exact Nat.lt_log2_self.trans_le (Nat.pow_le_pow_right Nat.two_pos (by omega))
    have below : 2 ^ 52 * 2 ^ (second.log2 - 52) ≤ second := by
      rw [← Nat.pow_add, Nat.add_sub_cancel' (by omega)]
      exact Nat.log2_self_le (by rintro rfl; simp at less)
    have quotient : first / 2 ^ (first.log2 - 52) < 2 ^ 53 :=
      (Nat.div_lt_iff_lt_mul (Nat.two_pow_pos _)).mpr above
    have quotient' : 2 ^ 52 ≤ second / 2 ^ (second.log2 - 52) :=
      (Nat.le_div_iff_mul_le (Nat.two_pow_pos _)).mpr below
    calc Decimal.roundQuotient first (2 ^ (first.log2 - 52)) * 2 ^ (first.log2 - 52)
      _ ≤ 2 ^ 53 * 2 ^ (first.log2 - 52) :=
        Nat.mul_le_mul_right _ ((roundQuotient_le _ _).trans quotient)
      _ = 2 ^ 52 * 2 ^ (first.log2 - 52 + 1) := by rw [← Nat.pow_add, ← Nat.pow_add]; congr 1; omega
      _ ≤ 2 ^ 52 * 2 ^ (second.log2 - 52) :=
        Nat.mul_le_mul_left _ (Nat.pow_le_pow_right Nat.two_pos less)
      _ ≤ _ := Nat.mul_le_mul_right _ (quotient'.trans (div_le_roundQuotient _ _))
  · rw [same]
    exact Nat.mul_le_mul_right _ (roundQuotient_le_roundQuotient order)

/-- Rounding treats both signs alike. -/
theorem rounded_neg (value : Int) : rounded (-value) = -rounded value := by
  rcases value with value | value
  · cases value <;> rfl
  · exact (neg_neg _).symm

theorem rounded_nonneg {value : Int} (positive : 0 ≤ value) : 0 ≤ rounded value := by
  obtain ⟨value, rfl⟩ := Int.eq_ofNat_of_zero_le positive
  exact Int.natCast_nonneg _

/-- Rounding keeps the order, though it may make two numbers one. -/
theorem rounded_mono : Monotone rounded := by
  have nonneg {first second : Int} (positive : 0 ≤ first) (order : first ≤ second) :
      rounded first ≤ rounded second := by
    obtain ⟨first, rfl⟩ := Int.eq_ofNat_of_zero_le positive
    obtain ⟨second, rfl⟩ := Int.eq_ofNat_of_zero_le (positive.trans order)
    exact Int.ofNat_le.mpr (roundNat_le_roundNat (Int.ofNat_le.mp order))
  intro first second order
  rcases le_total 0 first with positive | negative
  · exact nonneg positive order
  · rcases le_total 0 second with positive' | negative'
    · have low := rounded_nonneg (neg_nonneg.mpr negative)
      rw [rounded_neg] at low
      exact (neg_nonneg.mp low).trans (rounded_nonneg positive')
    · have mirrored := nonneg (neg_nonneg.mpr negative') (neg_le_neg order)
      rwa [rounded_neg, rounded_neg, neg_le_neg_iff] at mirrored

/-- An integer up to the first one of 54 digits is kept. -/
theorem roundNat_of_le {value : Nat} (small : value ≤ 2 ^ 53) : roundNat value = value := by
  rcases small.lt_or_eq with less | rfl
  · exact roundNat_of_lt less
  · decide

theorem rounded_of_roundNat {value : Int} (same : roundNat value.natAbs = value.natAbs) :
    rounded value = value := by
  cases value with
  | ofNat value => exact congrArg Int.ofNat same
  | negSucc value => exact congrArg (fun value : Nat => -(value : Int)) same

/-- Up to 53 digits nothing is rounded. -/
theorem rounded_of_natAbs_le {value : Int} (small : value.natAbs ≤ 2 ^ 53) :
    rounded value = value :=
  rounded_of_roundNat (roundNat_of_le small)

/-- The units in one. -/
@[irreducible]
def perOne : Nat := magnitude 1 0

theorem perOne_eq : perOne = 2 ^ (0 + 1074 : Int).toNat := by
  unfold perOne magnitude
  rw [Nat.one_mul]

theorem perOne_pos : 0 < perOne := by
  rw [perOne_eq]
  exact Nat.two_pow_pos _

/-- An unpacked number with all its digits, of a sign and with some units. -/
def Holds (value : UnpackedFloat) (sign : Sign) (amount : Nat) : Prop :=
  ∃ significand exponent positive, value = .finite sign significand exponent positive ∧
    IsNumber significand exponent ∧ 2 ^ 52 ≤ significand ∧ magnitude significand exponent = amount

namespace Holds

variable {value : UnpackedFloat} {sign : Sign} {amount : Nat}

/-- A number that is held with all its digits is finite. -/
theorem isFinite (holds : Holds value sign amount) : value.isFinite = true := by
  obtain ⟨_, _, _, rfl, -⟩ := holds
  rfl

/-- Its units are told from the sign and the amount. -/
theorem unitsOf_eq (holds : Holds value sign amount) : unitsOf value = sign.apply amount := by
  obtain ⟨_, _, _, rfl, -, -, rfl⟩ := holds
  rfl

/-- Packing and unpacking keep the amount of a number. -/
theorem packed
    (holds : Holds value sign amount) :
    Holds (Float.Model.pack value).unpack sign amount := by
  obtain ⟨_, _, positive, rfl, number, normal, same⟩ := holds
  exact ⟨_, _, positive, unpack_pack _ _ number normal, number, normal, same⟩

theorem neg (holds : Holds value .positive amount) : Holds value.neg .negative amount := by
  obtain ⟨_, _, positive, rfl, rest⟩ := holds
  exact ⟨_, _, positive, rfl, rest⟩

/-- A rounded significand holds what is left of it. -/
theorem of_round
    {significand count : Nat}
    (sign : Sign)
    (exponent : Int)
    (digits : significand.log2 = 52 + count)
    (least : -1074 ≤ exponent + count)
    (greatest : exponent + count ≤ 970) :
    Holds (roundWithAccuracy .binary64 sign significand exponent .exact) sign
      (Decimal.roundQuotient significand (2 ^ count) * 2 ^ (exponent + count + 1074).toNat) := by
  obtain ⟨rounded, raised, positive, rounds, normal, small, above, below, same⟩ :=
    exists_roundWithAccuracy sign digits least
  exact ⟨rounded, raised, positive, rounds, ⟨small, by omega, by omega, .inr normal⟩, normal, same⟩

/-- Multiplying by one changes nothing. -/
theorem mul_one
    {one : UnpackedFloat}
    {places : Nat}
    (holds : Holds value .positive amount)
    (isOne : one = .finite .positive (2 ^ 52) (-52) (Nat.two_pow_pos 52))
    (small : amount < 2 ^ places * perOne)
    (few : places ≤ 64) :
    Holds (UnpackedFloat.mul .binary64 value one) .positive amount := by
  obtain ⟨significand, exponent, positive, rfl, number, normal, rfl⟩ := holds
  subst isOne
  have bounded : 52 + (exponent + 1074).toNat < places + (0 + 1074 : Int).toNat :=
    (Nat.pow_lt_pow_iff_right one_lt_two).mp <| calc
      2 ^ (52 + (exponent + 1074).toNat) = 2 ^ 52 * 2 ^ (exponent + 1074).toNat := Nat.pow_add _ _ _
      _ ≤ magnitude significand exponent := Nat.mul_le_mul_right _ normal
      _ < 2 ^ places * perOne := small
      _ = 2 ^ (places + (0 + 1074 : Int).toNat) := by rw [perOne_eq, Nat.pow_add]
  have digits : (significand * 2 ^ 52).log2 = 52 + 52 := by
    rw [log2_mul_two_pow positive.ne', log2_eq_of_bounds normal number.small]
  have rounds := of_round .positive (exponent + -52) digits
    (by have := number.least; omega) (by omega)
  have exact : Decimal.roundQuotient (significand * 2 ^ 52) (2 ^ 52) = significand := by
    have scaled := roundQuotient_mul_right (Nat.two_pow_pos 52) significand 1
    rwa [Nat.one_mul, roundQuotient_one] at scaled
  have raised : exponent + -52 + (52 : Nat) + 1074 = exponent + 1074 := by omega
  rwa [exact, raised] at rounds

/-- A natural number with at most 53 digits is held exactly. -/
theorem of_lt {value : Nat} (positive : 0 < value) (small : value < 2 ^ 53) :
    Holds (UnpackedFloat.ofUInt64 .binary64 value.toUInt64) .positive (value * perOne) := by
  have same : value.toUInt64.toNat = value := Nat.mod_eq_of_lt (by omega)
  have digits := (Nat.log2_lt positive.ne').mpr small
  have greater : compare (value : Int) 0 = .gt := compare_gt_iff_gt.mpr (by omega)
  have target : Format.binary64.targetExponent (totalExponent value 0) = value.log2 - 52 := by
    have width : ((Format.binary64.mantissaBits : Nat) : Int) = 53 := rfl
    have lowest : Format.binary64.minExponent = -1074 := rfl
    unfold Format.targetExponent totalExponent
    omega
  have shift : (0 - ((value.log2 : Int) - 52)).toNat = 52 - value.log2 := by omega
  unfold UnpackedFloat.ofUInt64 UnpackedFloat.ofNat UnpackedFloat.ofInt UnpackedFloat.normalize
  rw [same, greater]
  dsimp only
  unfold UnpackedFloat.round decreaseExponent
  dsimp only
  rw [Int.toNat_natCast, target, shift, Nat.shiftLeft_eq]
  have filled : (value * 2 ^ (52 - value.log2)).log2 = 52 + 0 := by
    rw [log2_mul_two_pow positive.ne']
    omega
  have rounds := of_round .positive (0 - (52 - value.log2 : Nat)) filled
    (by omega) (by omega)
  have amount : Decimal.roundQuotient (value * 2 ^ (52 - value.log2)) (2 ^ 0) *
      2 ^ (0 - ((52 - value.log2 : Nat) : Int) + (0 : Nat) + 1074).toNat = value * perOne := by
    rw [perOne_eq, pow_zero, roundQuotient_one, Nat.mul_assoc, ← Nat.pow_add]
    congr 2
    omega
  rwa [amount] at rounds

/-- A natural number with more digits is rounded. -/
theorem of_ge {value : Nat} (large : 2 ^ 53 ≤ value) (bounded : value < 2 ^ 64) :
    Holds (UnpackedFloat.ofScientific .binary64 value 0) .positive (roundNat value * perOne) := by
  have notZero : value ≠ 0 := by omega
  have many := (Nat.le_log2 notZero).mpr large
  have few := (Nat.log2_lt notZero).mpr bounded
  rw [ofScientific_zero notZero]
  have digits : (value * 2 ^ 53).log2 = 52 + (value.log2 - 52 + 53) := by
    rw [log2_mul_two_pow notZero]
    omega
  have rounds := of_round .positive (-53) digits (by omega) (by omega)
  have amount : Decimal.roundQuotient (value * 2 ^ 53) (2 ^ (value.log2 - 52 + 53)) *
      2 ^ (-53 + ((value.log2 - 52 + 53 : Nat) : Int) + 1074).toNat = roundNat value * perOne := by
    have raised : (-53 + ((value.log2 - 52 + 53 : Nat) : Int) + 1074).toNat =
        value.log2 - 52 + (0 + 1074 : Int).toNat := by omega
    unfold roundNat
    rw [perOne_eq, Nat.pow_add, roundQuotient_mul_right (Nat.two_pow_pos 53), raised, Nat.pow_add,
      ← Nat.mul_assoc]
  rwa [amount] at rounds

end Holds

/-! ## Integers as floating-point numbers -/

/-- The number one has its leading digit alone. -/
theorem one_unpack :
    (Float.ofBits 0x3FF0000000000000).toModel.unpack =
      .finite .positive (2 ^ 52) (-52) (Nat.two_pow_pos 52) :=
  rfl

/-- A small integer is converted at once, and multiplied by one. -/
theorem ofNat_of_lt {value : Nat} (small : value < 2 ^ 53) :
    Float.ofNat value = value.toUInt64.toFloat * Float.ofBits 0x3FF0000000000000 := by
  show Float.ofScientific value false 0 = _
  unfold Float.ofScientific
  rw [dif_pos ⟨small, Nat.zero_le 22⟩]
  rfl

/-- A large integer is converted as a decimal without an exponent. -/
theorem ofNat_of_ge {value : Nat} (large : 2 ^ 53 ≤ value) :
    (Float.ofNat value).toModel = .ofScientific value 0 := by
  show (Float.ofScientific value false 0).toModel = _
  unfold Float.ofScientific
  rw [dif_neg fun both => both.1.not_ge large]
  rfl

/-- A natural number of at most 64 digits becomes the number it is rounded to. -/
theorem holds_ofNat {value : Nat} (positive : 0 < value) (bounded : value < 2 ^ 64) :
    Holds (Float.ofNat value).toModel.unpack .positive (roundNat value * perOne) := by
  rcases Nat.lt_or_ge value (2 ^ 53) with small | large
  · rw [ofNat_of_lt small, roundNat_of_lt small]
    have few : value * perOne < 2 ^ 53 * perOne := Nat.mul_lt_mul_of_pos_right small perOne_pos
    exact ((Holds.of_lt positive small).packed.mul_one one_unpack few (by decide)).packed
  · rw [ofNat_of_ge large]
    exact (Holds.of_ge large bounded).packed

/-- An integer of the range becomes the number it is rounded to. -/
theorem units_ofInt (value : Int) (small : value.natAbs < 2 ^ 64) :
    (Float.ofInt value).isFinite = true ∧
      units (Float.ofInt value) = rounded value * perOne := by
  cases value with
  | ofNat value =>
    rcases Nat.eq_zero_or_pos value with rfl | positive
    · exact ⟨rfl, (Int.zero_mul _).symm⟩
    · have holds := holds_ofNat positive small
      exact ⟨holds.isFinite, holds.unitsOf_eq.trans (Int.natCast_mul _ _)⟩
  | negSucc value =>
    have holds : Holds (Float.ofInt (.negSucc value)).toModel.unpack .negative _ :=
      (holds_ofNat value.succ_pos small).neg.packed
    have negated : -((roundNat (value + 1) * perOne : Nat) : Int) =
        -(roundNat (value + 1) : Int) * perOne := by
      rw [Int.natCast_mul, Int.neg_mul]
    exact ⟨holds.isFinite, holds.unitsOf_eq.trans negated⟩

/-- A number that is a floating-point number already is not rounded. -/
theorem roundNat_of_magnitude
    {value significand : Nat}
    {exponent : Int}
    (number : IsNumber significand exponent)
    (same : value * perOne = magnitude significand exponent) :
    roundNat value = value := by
  rcases Nat.lt_or_ge value (2 ^ 53) with small | large
  · exact roundNat_of_lt small
  have digits := (Nat.le_log2 (by omega)).mpr large
  unfold magnitude at same
  rw [perOne_eq] at same
  generalize (exponent + 1074).toNat = high at same
  generalize (0 + 1074 : Int).toNat = low at same
  have bounds : value.log2 + low < 53 + high :=
    (Nat.pow_lt_pow_iff_right one_lt_two).mp <| calc
      2 ^ (value.log2 + low) = 2 ^ value.log2 * 2 ^ low := Nat.pow_add _ _ _
      _ ≤ value * 2 ^ low := Nat.mul_le_mul_right _ (Nat.log2_self_le (by omega))
      _ = significand * 2 ^ high := same
      _ < 2 ^ 53 * 2 ^ high := Nat.mul_lt_mul_of_pos_right number.small (Nat.two_pow_pos _)
      _ = 2 ^ (53 + high) := (Nat.pow_add _ _ _).symm
  obtain ⟨more, rfl⟩ : ∃ more, high = more + (value.log2 - 52) + low :=
    ⟨high - low - (value.log2 - 52), by omega⟩
  have multiple : value = significand * 2 ^ more * 2 ^ (value.log2 - 52) := by
    apply Nat.mul_right_cancel (Nat.two_pow_pos low)
    rw [same, Nat.pow_add, Nat.pow_add, ← Nat.mul_assoc, ← Nat.mul_assoc]
  unfold roundNat
  dsimp only
  generalize 2 ^ (value.log2 - 52) = unit at multiple ⊢
  have positive : 0 < unit := Nat.pos_of_ne_zero fun zero => by
    rw [zero, Nat.mul_zero] at multiple
    omega
  have scaled := roundQuotient_mul_right positive (significand * 2 ^ more) 1
  rw [Nat.one_mul, roundQuotient_one, ← multiple] at scaled
  rw [scaled, ← multiple]

/-- An integer that equals a floating-point number has no digits to be rounded off. -/
theorem rounded_of_units
    {value : Int}
    {float : Float}
    (finite : float.isFinite = true)
    (same : value * perOne = units float) :
    rounded value = value := by
  have amount : value.natAbs * perOne = (units float).natAbs := by
    rw [← same, Int.natAbs_mul]
    rfl
  have canonical : Canonical float.toModel.unpack := canonical_unpack _
  have bounded : float.toModel.unpack.isFinite = true := finite
  apply rounded_of_roundNat
  unfold units at amount
  generalize float.toModel.unpack = unpacked at amount canonical bounded
  cases canonical with
  | infinity | notANumber => cases bounded
  | zero =>
    have zero := (Nat.mul_eq_zero.mp amount).resolve_right perOne_pos.ne'
    rw [zero]
    rfl
  | finite sign positive number =>
    refine roundNat_of_magnitude number (amount.trans ?_)
    cases sign
    · exact Int.natAbs_neg _
    · rfl

end Double

/-! ## Numbers of JSON values -/

namespace Number

/-- The numbers that there are: integers of 64 bits and finite floating-point numbers. -/
def IsHeld : Number → Prop
  | .integer value => inRange value = true
  | .decimal value => value.isFinite = true

/-- The exact size of a number, counted in the units of floating-point numbers. -/
def units : Number → Int
  | .integer value => value * Double.perOne
  | .decimal value => Double.units value

theorem natAbs_lt_of_inRange {value : Int} (held : inRange value = true) :
    value.natAbs < 2 ^ 64 := by
  unfold inRange at held
  have bounds := Bool.and_eq_true_iff.mp held
  have lower : -(2 : Int) ^ 63 ≤ value := of_decide_eq_true bounds.1
  have upper : value < (2 : Int) ^ 64 := of_decide_eq_true bounds.2
  omega

/-- A number that is held is finite as a floating-point number too. -/
theorem isFinite_toFloat {number : Number} (held : number.IsHeld) :
    number.toFloat.isFinite = true := by
  cases number with
  | integer value => exact (Double.units_ofInt value (natAbs_lt_of_inRange held)).1
  | decimal value => exact held

/-- Numbers of one size have one nearest floating-point number. -/
theorem units_toFloat_congr
    {first second : Number}
    (held : first.IsHeld)
    (other : second.IsHeld)
    (same : first.units = second.units) :
    Double.units first.toFloat = Double.units second.toFloat := by
  have mixed
      {value : Int}
      {float : Float}
      (held : inRange value = true)
      (finite : float.isFinite = true)
      (same : value * Double.perOne = Double.units float) :
      Double.units (Float.ofInt value) = Double.units float := by
    have rounds := Double.rounded_of_units finite same
    rw [(Double.units_ofInt value (natAbs_lt_of_inRange held)).2, rounds, same]
  cases first with
  | integer value =>
    cases second with
    | integer value' =>
      have scale : (Double.perOne : Int) ≠ 0 := Int.natCast_ne_zero.mpr Double.perOne_pos.ne'
      obtain rfl := Int.eq_of_mul_eq_mul_right scale same
      rfl
    | decimal float => exact mixed held other same
  | decimal float =>
    cases second with
    | integer value => exact (mixed other held same.symm).symm
    | decimal float' => exact same

end Number
end WorkflowEngine
