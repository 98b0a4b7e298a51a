import Mathlib
import WorkflowEngine.Condition

/-!
# Double-precision numbers as integers

Every finite double-precision number is a multiple of the least positive one, which is
`2 ^ -1074`.  Counted in these units, the comparisons of such numbers are those of
integers.
-/

namespace WorkflowEngine
namespace Double

open Float.Model Float.Model.UnpackedFloat

/-- The significands and exponents of the numbers that are neither zero nor infinite. -/
structure IsNumber (significand : Nat) (exponent : Int) : Prop where
  small : significand < 2 ^ 53
  least : -1074 ≤ exponent
  greatest : exponent ≤ 971
  /-- Below the least exponent there is no other way to write a number. -/
  normal : exponent = -1074 ∨ 2 ^ 52 ≤ significand

/-- The units in `significand * 2 ^ exponent`. -/
def magnitude (significand : Nat) (exponent : Int) : Nat :=
  significand * 2 ^ (exponent + 1074).toNat

/-- The units in an unpacked number; what is not finite has none. -/
def unitsOf : UnpackedFloat → Int
  | .finite sign significand exponent _ => sign.apply (magnitude significand exponent)
  | _ => 0

/-- The units in a double-precision number. -/
def units (value : Float) : Int := unitsOf value.toModel.unpack

/-! ## Unpacked numbers -/

/-- What unpacking yields. -/
inductive Canonical : UnpackedFloat → Prop
  | infinity (sign : Sign) : Canonical (.infinity sign)
  | notANumber : Canonical .notANumber
  | zero (sign : Sign) : Canonical (.zero sign)
  | finite {significand : Nat} {exponent : Int} (sign : Sign) (positive : 0 < significand)
      (number : IsNumber significand exponent) :
      Canonical (.finite sign significand exponent positive)

/-- The leading digit of a normal number is not stored. -/
theorem toNat_one_append (fraction : BitVec 52) :
    (1#1 ++ fraction).toNat = 2 ^ 52 + fraction.toNat := by
  rw [BitVec.toNat_append, ← Nat.shiftLeft_add_eq_or_of_lt fraction.isLt]
  rfl

/-- Whatever the bits are, unpacking them yields a canonical number. -/
theorem canonical_unpack (bits : BitVec Format.binary64.numBits) :
    Canonical (UnpackedFloat.unpack .binary64 bits) := by
  have bias : ((Format.binary64.exponentBias : Nat) : Int) = 1023 := rfl
  have places : ((Format.binary64.mantissaBitsWithoutImplicit : Nat) : Int) = 52 := rfl
  have fraction : (unpackMantissa bits).toNat < 2 ^ 52 := (unpackMantissa bits).isLt
  have bounded : (unpackExponent bits).toNat < 2 ^ 11 := (unpackExponent bits).isLt
  unfold UnpackedFloat.unpack
  dsimp only
  split
  next =>
    split
    next => exact .infinity _
    next => exact .notANumber
  next special =>
    have notGreatest : (unpackExponent bits).toNat ≠ 2 ^ 11 - 1 := fun same =>
      special (BitVec.eq_of_toNat_eq same)
    split
    next least =>
      split
      next => exact .zero _
      next =>
        have zero : (unpackExponent bits).toNat = 0 := congrArg BitVec.toNat least
        exact .finite _ _ ⟨by omega, by omega, by omega, .inl (by omega)⟩
    next normal =>
      have notLeast : (unpackExponent bits).toNat ≠ 0 := fun same =>
        normal (BitVec.eq_of_toNat_eq same)
      have significand := toNat_one_append (unpackMantissa bits)
      exact .finite _ _ ⟨by omega, by omega, by omega, .inr (by omega)⟩

/-! ## Packing -/

theorem log2_eq_of_bounds
    {significand : Nat}
    (normal : 2 ^ 52 ≤ significand)
    (small : significand < 2 ^ 53) :
    significand.log2 = 52 :=
  (Nat.log2_eq_iff (by omega)).mpr ⟨normal, small⟩

/-- What is packed of a number with all its digits is unpacked again. -/
theorem unpack_pack
    {significand : Nat}
    {exponent : Int}
    (sign : Sign)
    (positive : 0 < significand)
    (number : IsNumber significand exponent)
    (normal : 2 ^ 52 ≤ significand) :
    UnpackedFloat.unpack .binary64
        (UnpackedFloat.pack .binary64 (.finite sign significand exponent positive)) =
      .finite sign significand exponent positive := by
  have bias : ((Format.binary64.exponentBias : Nat) : Int) = 1023 := rfl
  have places : ((Format.binary64.mantissaBitsWithoutImplicit : Nat) : Int) = 52 := rfl
  have long : significand.log2 + 1 = Format.binary64.mantissaBits :=
    congrArg (· + 1) (log2_eq_of_bounds normal number.small)
  obtain ⟨small, least, greatest, -⟩ := number
  have biased : (BitVec.ofNat 11 (exponent + 1023 + 52).toNat).toNat =
      (exponent + 1023 + 52).toNat := by
    rw [BitVec.toNat_ofNat]
    omega
  have fraction : (BitVec.ofNat 52 significand).toNat = significand - 2 ^ 52 := by
    rw [BitVec.toNat_ofNat]
    omega
  have notSpecial : BitVec.ofNat 11 (exponent + 1023 + 52).toNat ≠ -1#11 := fun same => by
    have : _ = 2 ^ 11 - 1 := congrArg BitVec.toNat same
    omega
  have notLeast : BitVec.ofNat 11 (exponent + 1023 + 52).toNat ≠ 0#11 := fun same => by
    have : _ = 0 := congrArg BitVec.toNat same
    omega
  unfold UnpackedFloat.pack
  dsimp only
  rw [bias, places, if_neg (by omega), if_pos long]
  unfold UnpackedFloat.unpack
  dsimp only
  simp only [unpackExponent_packComponents, unpackMantissa_packComponents,
    unpackSign_packComponents, Sign.ofBitVec_toBitVec, if_neg notSpecial, if_neg notLeast,
    toNat_one_append]
  congr 1
  · omega
  · omega

/-! ## Comparing -/

namespace IsNumber

variable {first second : Nat} {low high exponent : Int}

/-- The number with the smaller exponent is smaller in size, whatever the significands are. -/
theorem magnitude_lt_of_exponent
    (number : IsNumber first low)
    (other : IsNumber second high)
    (less : low < high) :
    magnitude first low < magnitude second high := by
  have normal : 2 ^ 52 ≤ second := other.normal.resolve_left (by have := number.least; omega)
  have raised : (low + 1074).toNat + 53 ≤ (high + 1074).toNat + 52 := by
    have := number.least
    omega
  calc magnitude first low < 2 ^ 53 * 2 ^ (low + 1074).toNat :=
        Nat.mul_lt_mul_of_pos_right number.small (Nat.two_pow_pos _)
    _ = 2 ^ ((low + 1074).toNat + 53) := by rw [← Nat.pow_add, Nat.add_comm]
    _ ≤ 2 ^ ((high + 1074).toNat + 52) := Nat.pow_le_pow_right Nat.two_pos raised
    _ = 2 ^ 52 * 2 ^ (high + 1074).toNat := by rw [← Nat.pow_add, Nat.add_comm]
    _ ≤ magnitude second high := Nat.mul_le_mul_right _ normal

/-- Numbers are compared by their exponents, and only then by their significands. -/
theorem compare_magnitude
    (number : IsNumber first low)
    (other : IsNumber second high) :
    compare (magnitude first low) (magnitude second high) =
      (compare low high).then (compare first second) := by
  rcases lt_trichotomy low high with less | rfl | greater
  · have below := number.magnitude_lt_of_exponent other less
    rw [compare_lt_iff_lt.mpr less, compare_lt_iff_lt.mpr below]
    rfl
  · have scale : 0 < 2 ^ (low + 1074).toNat := Nat.two_pow_pos _
    rw [compare_eq_iff_eq.mpr rfl]
    rcases lt_trichotomy first second with less | rfl | greater
    · rw [compare_lt_iff_lt.mpr less]
      exact compare_lt_iff_lt.mpr (Nat.mul_lt_mul_of_pos_right less scale)
    · rw [compare_eq_iff_eq.mpr rfl, compare_eq_iff_eq.mpr rfl]
      rfl
    · rw [compare_gt_iff_gt.mpr greater]
      exact compare_gt_iff_gt.mpr (Nat.mul_lt_mul_of_pos_right greater scale)
  · rw [compare_gt_iff_gt.mpr greater,
      compare_gt_iff_gt.mpr (other.magnitude_lt_of_exponent number greater)]
    rfl

end IsNumber

theorem magnitude_pos {significand : Nat} (positive : 0 < significand) (exponent : Int) :
    0 < magnitude significand exponent :=
  Nat.mul_pos positive (Nat.two_pow_pos _)

section

variable {significand : Nat} {exponent : Int} (positive : 0 < significand)

theorem unitsOf_pos : 0 < unitsOf (.finite .positive significand exponent positive) :=
  Int.natCast_pos.mpr (magnitude_pos positive exponent)

theorem unitsOf_neg : unitsOf (.finite .negative significand exponent positive) < 0 :=
  neg_lt_zero.mpr (unitsOf_pos positive)

end

theorem compare_natCast (first second : Nat) :
    compare (first : Int) (second : Int) = compare first second := by
  rcases lt_trichotomy first second with less | rfl | greater
  · rw [compare_lt_iff_lt.mpr less, compare_lt_iff_lt.mpr (Int.ofNat_lt.mpr less)]
  · rw [compare_eq_iff_eq.mpr rfl, compare_eq_iff_eq.mpr rfl]
  · rw [compare_gt_iff_gt.mpr greater, compare_gt_iff_gt.mpr (Int.ofNat_lt.mpr greater)]

theorem compare_neg (first second : Int) :
    compare (-first) (-second) = (compare first second).swap := by
  rcases lt_trichotomy first second with less | rfl | greater
  · rw [compare_lt_iff_lt.mpr less, compare_gt_iff_gt.mpr (neg_lt_neg less)]
    rfl
  · rw [compare_eq_iff_eq.mpr rfl, compare_eq_iff_eq.mpr rfl]
    rfl
  · rw [compare_gt_iff_gt.mpr greater, compare_lt_iff_lt.mpr (neg_lt_neg greater)]
    rfl

/-- Finite numbers are compared by the units in them. -/
theorem compare_eq_compare_unitsOf
    {first second : UnpackedFloat}
    (canonical : Canonical first)
    (finite : first.isFinite = true)
    (other : Canonical second)
    (bounded : second.isFinite = true) :
    first.compare second = some (compare (unitsOf first) (unitsOf second)) := by
  have less {low high : Int} (order : low < high) : some (compare low high) = some .lt :=
    congrArg some (compare_lt_iff_lt.mpr order)
  have greater {low high : Int} (order : low < high) : some (compare high low) = some .gt :=
    congrArg some (compare_gt_iff_gt.mpr order)
  cases canonical with
  | infinity | notANumber => cases finite
  | zero =>
    cases other with
    | infinity | notANumber => cases bounded
    | zero => rfl
    | finite sign positive =>
      cases sign with
      | negative => exact (greater (unitsOf_neg positive)).symm
      | positive => exact (less (unitsOf_pos positive)).symm
  | finite sign positive number =>
    cases other with
    | infinity | notANumber => cases bounded
    | zero =>
      cases sign with
      | negative => exact (less (unitsOf_neg positive)).symm
      | positive => exact (greater (unitsOf_pos positive)).symm
    | finite sign' positive' number' =>
      cases sign <;> cases sign'
      case negative.negative =>
        simp only [unitsOf, Sign.apply, compare_neg, compare_natCast,
          number.compare_magnitude number']
        rfl
      case negative.positive =>
        exact (less ((unitsOf_neg positive).trans (unitsOf_pos positive'))).symm
      case positive.negative =>
        exact (greater ((unitsOf_neg positive').trans (unitsOf_pos positive))).symm
      case positive.positive =>
        simp only [unitsOf, Sign.apply, compare_natCast, number.compare_magnitude number']
        rfl

/-- Compared the other way round, numbers have the opposite order. -/
theorem compare_swap (first second : UnpackedFloat) :
    second.compare first = (first.compare second).map Ordering.swap := by
  cases first with
  | notANumber => cases second <;> rfl
  | infinity sign =>
    cases second with
    | notANumber => cases sign <;> rfl
    | infinity other => cases sign <;> cases other <;> rfl
    | zero => cases sign <;> rfl
    | finite other => cases sign <;> cases other <;> rfl
  | zero sign =>
    cases second with
    | notANumber | zero => rfl
    | infinity other | finite other => cases other <;> rfl
  | finite sign significand exponent =>
    cases second with
    | notANumber => rfl
    | zero => cases sign <;> rfl
    | infinity other => cases other <;> rfl
    | finite other significand' exponent' =>
      have mirrored : (compare exponent' exponent).then (compare significand' significand) =
          ((compare exponent exponent').then (compare significand significand')).swap := by
        rw [Ordering.swap_then, ← Std.OrientedCmp.eq_swap, ← Std.OrientedCmp.eq_swap]
      cases sign <;> cases other
      case negative.negative => exact congrArg (fun order => some order.swap) mirrored
      case negative.positive => rfl
      case positive.negative => rfl
      case positive.positive => exact congrArg some mirrored

/-- Only what is not a number has no order. -/
theorem compare_eq_none_iff (first second : UnpackedFloat) :
    first.compare second = none ↔ first.isNaN = true ∨ second.isNaN = true := by
  unfold UnpackedFloat.compare
  split <;> simp_all [UnpackedFloat.isNaN]

section

variable {first second : Float}

/-- The comparison of floating-point numbers is that of the unpacked ones. -/
theorem lt_iff_compare :
    first < second ↔ first.toModel.unpack.compare second.toModel.unpack = some .lt := by
  show decide _ = true ↔ _
  rw [decide_eq_true_iff]
  exact beq_iff_eq

/-- So is their equality, which is not that of their bits. -/
theorem beq_iff_compare :
    (first == second) = true ↔
      first.toModel.unpack.compare second.toModel.unpack = some .eq := by
  show (first.toModel.unpack.compare second.toModel.unpack == some .eq) = true ↔ _
  exact beq_iff_eq

/-- Two numbers are compared by what their digits stand for. -/
theorem compareFloats_eq_compare (first second : Float) :
    Json.compareFloats first second =
      first.toModel.unpack.compare second.toModel.unpack := by
  unfold Json.compareFloats
  simp only [lt_iff_compare, beq_iff_compare]
  rw [compare_swap first.toModel.unpack second.toModel.unpack]
  rcases first.toModel.unpack.compare second.toModel.unpack with - | (- | - | -) <;> rfl

/-- Finite numbers are compared by their units. -/
theorem compare_unpack
    (finite : first.isFinite = true)
    (bounded : second.isFinite = true) :
    first.toModel.unpack.compare second.toModel.unpack =
      some (compare (units first) (units second)) :=
  compare_eq_compare_unitsOf (canonical_unpack _) finite (canonical_unpack _) bounded

/-- The order of finite numbers is that of their units. -/
theorem lt_iff
    (finite : first.isFinite = true)
    (bounded : second.isFinite = true) :
    first < second ↔ units first < units second := by
  rw [lt_iff_compare, compare_unpack finite bounded, Option.some.injEq, compare_lt_iff_lt]

/-- Finite numbers are equal if they have as many units. -/
theorem beq_iff
    (finite : first.isFinite = true)
    (bounded : second.isFinite = true) :
    (first == second) = true ↔ units first = units second := by
  rw [beq_iff_compare, compare_unpack finite bounded, Option.some.injEq, compare_eq_iff_eq]

/-- The order of finite numbers is that of the units in them. -/
theorem compareFloats_eq
    (finite : first.isFinite = true)
    (bounded : second.isFinite = true) :
    Json.compareFloats first second = some (compare (units first) (units second)) :=
  (compareFloats_eq_compare first second).trans (compare_unpack finite bounded)

end

end Double
end WorkflowEngine
