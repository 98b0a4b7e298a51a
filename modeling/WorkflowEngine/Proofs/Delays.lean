import WorkflowEngine.Action.Builtin
import WorkflowEngine.Proofs.Numerals
import WorkflowEngine.Proofs.Rounding

/-!
# Delays

A step that delays is configured with a number of milliseconds or of seconds.  Either the
configuration is refused, or the handler waits for a span and reports its milliseconds.  A
number of seconds may be too large: from `2 ^ 64` milliseconds on the report is wrong, and from
`2 ^ 64` seconds on there is no such span, and the handler breaks down.
-/

namespace WorkflowEngine

open Decimal (Binary)

/-! ## Numbers by their bits -/

namespace Double

open Float.Model Float.Model.UnpackedFloat

/-- Unpacking reads the exponent from the same bits. -/
theorem toNat_unpackExponent (value : Float) :
    (@unpackExponent .binary64 value.toModel.toBits.toBitVec).toNat =
      ((value.toBits >>> 52) &&& 0x7FF).toNat := by
  rw [Binary.toNat_biased]
  unfold unpackExponent
  rw [BitVec.toNat_cast, BitVec.extractLsb_toNat, Nat.shiftRight_eq_div_pow]
  rfl

/-- Unpacking reads the fraction from the same bits. -/
theorem toNat_unpackMantissa (value : Float) :
    (@unpackMantissa .binary64 value.toModel.toBits.toBitVec).toNat =
      (value.toBits &&& 0xFFFFFFFFFFFFF).toNat := by
  rw [Binary.toNat_fraction]
  unfold unpackMantissa
  rw [BitVec.toNat_cast, BitVec.extractLsb_toNat]
  rfl

theorem natAbs_unitsOf
    {significand : Nat}
    {exponent : Int}
    (sign : Sign)
    (positive : 0 < significand) :
    (unitsOf (.finite sign significand exponent positive)).natAbs =
      magnitude significand exponent := by
  cases sign with
  | positive => rfl
  | negative => exact Int.natAbs_neg _

section

variable {value other : Float} (finite : value.isFinite = true)

include finite in
/-- The units in a number are those of its form. -/
theorem natAbs_units :
    (units value).natAbs =
      magnitude (Binary.ofFloat value).significand (Binary.ofFloat value).exponent := by
  have biased := toNat_unpackExponent value
  have fraction := toNat_unpackMantissa value
  change (UnpackedFloat.unpack .binary64 value.toModel.toBits.toBitVec).isFinite = true at finite
  show (unitsOf (UnpackedFloat.unpack .binary64 value.toModel.toBits.toBitVec)).natAbs = _
  unfold UnpackedFloat.unpack at finite ⊢
  unfold Binary.ofFloat
  dsimp only at finite ⊢
  split at finite
  next => split at finite <;> cases finite
  next special =>
    rw [if_neg special, ← biased, ← fraction]
    split
    next least =>
      rw [least, if_pos (by rfl)]
      split
      next none =>
        rw [none]
        simp [unitsOf, magnitude]
      next => exact natAbs_unitsOf _ _
    next normal =>
      have notLeast :
          (@unpackExponent .binary64 value.toModel.toBits.toBitVec).toNat ≠ 0 :=
        fun zero => normal (BitVec.eq_of_toNat_eq zero)
      rw [if_neg notLeast, natAbs_unitsOf, toNat_one_append]
      congr 1

/-- The comparison of floating-point numbers is that of the unpacked ones. -/
theorem le_iff_compare :
    value ≤ other ↔
      (value.toModel.unpack.compare other.toModel.unpack).any Ordering.isLE = true := by
  show decide _ = true ↔ _
  rw [decide_eq_true_iff]
  rfl

include finite

theorem zero_le_iff : 0.0 ≤ value ↔ 0 ≤ units value := by
  rw [le_iff_compare, compare_unpack (by rfl) finite]
  exact Ordering.isLE_iff_ne_gt.trans (compare_le_iff_le (a := units 0.0))

theorem lt_zero_iff : value < 0.0 ↔ units value < 0 :=
  lt_iff finite (by rfl)

end

end Double

/-! ## Spans -/

namespace Span

open Double (magnitude perOne)

/-- The nanoseconds nearest to a number of seconds, of two the even one. -/
def nanosOf (seconds : Binary) : Nat :=
  let scaled := seconds.significand * 1000000000 * Nat.pow 2 seconds.exponent.toNat
  let unit := Nat.pow 2 (-seconds.exponent).toNat
  let quotient := scaled / unit
  let twice := 2 * (scaled % unit)
  if twice < unit then quotient
  else if unit < twice then quotient + 1
  else quotient + quotient % 2

/-- A span of some seconds has the nanoseconds nearest to them, if they are
within the limit. -/
theorem ofSecondsFloat?_eq
    {seconds : Float}
    (finite : seconds.isFinite = true)
    (positive : 0 ≤ Double.units seconds) :
    ofSecondsFloat? seconds =
      if nanosOf (.ofFloat seconds) < secondLimit * 1000000000 then
        some ⟨nanosOf (.ofFloat seconds)⟩
      else none := by
  have notNegative : ¬seconds < 0.0 := (Double.lt_zero_iff finite).not.mpr (not_lt.mpr positive)
  unfold ofSecondsFloat?
  rw [if_neg (by simp [finite, notNegative])]
  rfl

variable {seconds : Binary}

/-- Seconds without a fraction are not rounded. -/
theorem nanosOf_of_integral (integral : 0 ≤ seconds.exponent) :
    nanosOf seconds = seconds.significand * 1000000000 * 2 ^ seconds.exponent.toNat := by
  have whole : (-seconds.exponent).toNat = 0 := by omega
  unfold nanosOf
  rw [whole]
  simp [Nat.mod_one]

/-- Numbers of seconds with a fraction are small. -/
theorem nanosOf_of_fractional
    (double : seconds.IsDouble)
    (fractional : seconds.exponent < 0) :
    nanosOf seconds ≤ 2 ^ 52 * 1000000000 + 1 := by
  have none : seconds.exponent.toNat = 0 := by omega
  have halved : 2 ≤ Nat.pow 2 (-seconds.exponent).toNat :=
    Nat.le_self_pow (by omega) 2
  have quotient : seconds.significand * 1000000000 / Nat.pow 2 (-seconds.exponent).toNat ≤
      2 ^ 52 * 1000000000 := by
    refine Nat.div_le_of_le_mul ?_
    have := double.small
    calc seconds.significand * 1000000000 ≤ 2 * (2 ^ 52 * 1000000000) := by omega
      _ ≤ Nat.pow 2 (-seconds.exponent).toNat * (2 ^ 52 * 1000000000) :=
        Nat.mul_le_mul_right _ halved
  unfold nanosOf
  rw [none]
  dsimp only
  rw [show Nat.pow 2 0 = 1 from rfl, Nat.mul_one]
  split
  next => omega
  next =>
    split <;> omega

/-- A span of so many parts of a second has fewer of them than `2 ^ 64` exactly if the number
of seconds does. -/
theorem nanosOf_lt_iff
    (double : seconds.IsDouble)
    {perSecond nanos : Nat}
    (parts : perSecond * nanos = 1000000000)
    (coarse : perSecond ≤ 1000) :
    nanosOf seconds < 2 ^ 64 * nanos ↔
      perSecond * magnitude seconds.significand seconds.exponent < 2 ^ 64 * perOne := by
  have one := Double.perOne_pos
  have least := double.least
  have small := double.small
  have nanosPos : 0 < nanos := Nat.pos_of_ne_zero fun zero => by simp [zero] at parts
  unfold magnitude
  rcases le_or_gt 0 seconds.exponent with integral | fractional
  · have scale : 2 ^ (seconds.exponent + 1074).toNat = 2 ^ seconds.exponent.toNat * perOne := by
      rw [Double.perOne_eq, ← Nat.pow_add]
      congr 1
      omega
    rw [nanosOf_of_integral integral, scale, ← parts]
    have left : seconds.significand * (perSecond * nanos) * 2 ^ seconds.exponent.toNat =
        perSecond * (seconds.significand * 2 ^ seconds.exponent.toNat) * nanos := by ring
    have right : perSecond * (seconds.significand * (2 ^ seconds.exponent.toNat * perOne)) =
        perSecond * (seconds.significand * 2 ^ seconds.exponent.toNat) * perOne := by ring
    rw [left, right, Nat.mul_lt_mul_right nanosPos, Nat.mul_lt_mul_right one]
  · -- Both sides are far below the limit.
    have many : 1000000 ≤ nanos := by
      by_contra few
      have : perSecond * nanos < 1000 * 1000000 := by nlinarith
      omega
    have below := nanosOf_of_fractional double fractional
    have scale : 2 ^ (seconds.exponent + 1074).toNat ≤ perOne := by
      rw [Double.perOne_eq]
      exact Nat.pow_le_pow_right Nat.two_pos (by omega)
    refine iff_of_true (by omega) ?_
    calc perSecond * (seconds.significand * 2 ^ (seconds.exponent + 1074).toNat)
        ≤ 1000 * (2 ^ 53 * perOne) :=
          Nat.mul_le_mul coarse (Nat.mul_le_mul small.le scale)
      _ < 2 ^ 64 * perOne := by
          rw [← Nat.mul_assoc]
          exact Nat.mul_lt_mul_of_pos_right (by norm_num) one

end Span

/-! ## The handler -/

namespace Tree

/-- Any number is read as a floating-point number, integers included. -/
theorem float?_ofJson_eq_some_iff {value : Json} {seconds : Float} :
    (ofJson value).float? = some seconds ↔
      ∃ number, value = .number number ∧ number.toFloat = seconds := by
  cases value <;> simp [ofJson, float?]

theorem lt_of_nat64?_eq_some {tree : Tree} {count : Nat} (read : tree.nat64? = some count) :
    count < 2 ^ 64 := by
  obtain ⟨value, filtered, rfl⟩ := Option.map_eq_some_iff.mp read
  obtain ⟨-, bounded⟩ := Option.filter_eq_some_iff.mp filtered
  have bounds := Bool.and_eq_true_iff.mp bounded
  have lower : 0 ≤ value := of_decide_eq_true bounds.1
  have upper : value < (2 : Int) ^ 64 := of_decide_eq_true bounds.2
  omega

end Tree

namespace Builtin

variable {config : Json} {invocation : Invocation} {seconds : Float}

/-- A configuration sets a delay in seconds: it gives no milliseconds, and a number of
seconds to which this is the nearest floating-point number. -/
structure SetsSeconds (config : Json) (seconds : Float) : Prop where
  noMillis : config.field? "delayMs" = none ∨ config.field? "delayMs" = some .null
  number : ∃ number, config.field? "seconds" = some (.number number) ∧ number.toFloat = seconds

/-- A configuration sets a finite number of seconds that make so many parts at least, of which
a second has `perSecond`. -/
def SetsAtLeast (config : Json) (perSecond count : Nat) : Prop :=
  ∃ seconds, SetsSeconds config seconds ∧ seconds.isFinite = true ∧
    count * Double.perOne ≤ perSecond * Double.units seconds

/-- The handler refuses its configuration, or waits for a span and reports all of its whole
milliseconds. -/
inductive IsAccountedFor (invocation : Invocation) : Prop
  | refused
      {message : String}
      (answered : wait invocation = some (atOnce (.error (.invalidConfig message)))) :
      IsAccountedFor invocation
  | waited
      {span : Span}
      {result : StepResult}
      (answered : wait invocation = some ⟨span, .ok result⟩)
      (succeeded : result.success = true)
      (reported : result.data = [("delayedMs", .ofNat span.millis)]) :
      IsAccountedFor invocation

/-- A configuration sets one number of seconds at most. -/
theorem SetsSeconds.unique
    {other : Float}
    (sets : SetsSeconds config seconds)
    (again : SetsSeconds config other) :
    seconds = other := by
  obtain ⟨number, given, rfl⟩ := sets.number
  obtain ⟨number', given', rfl⟩ := again.number
  cases given.symm.trans given'
  rfl

/-- A configuration in seconds is refused, or brings a span if there is one. -/
theorem SetsSeconds.wait_eq (sets : SetsSeconds invocation.step.config seconds) :
    (seconds.isFinite && 0.0 ≤ seconds) = false ∧
      (∃ message, wait invocation = some (atOnce (.error (.invalidConfig message)))) ∨
    (seconds.isFinite && 0.0 ≤ seconds) = true ∧
      wait invocation =
        (Span.ofSecondsFloat? seconds).map fun span => ⟨span, .ok (delayed span)⟩ := by
  obtain ⟨noMillis, number, given, rfl⟩ := sets
  have taken : configField? invocation.step.config "seconds" Tree.float? =
      .ok (some number.toFloat) := by
    rw [configField?_of_given given (by simp), Tree.float?_ofJson_eq_some_iff.mpr ⟨_, rfl, rfl⟩]
  unfold wait delayOf
  rw [configField?_of_absent noMillis, taken]
  dsimp only
  cases number.toFloat.isFinite && decide (0.0 ≤ number.toFloat) with
  | false => exact .inl ⟨rfl, _, rfl⟩
  | true =>
    refine .inr ⟨rfl, ?_⟩
    cases Span.ofSecondsFloat? number.toFloat <;> rfl

/-- A handler that accounts for its delay has not broken down. -/
theorem IsAccountedFor.wait_ne_none (accounted : IsAccountedFor invocation) :
    wait invocation ≠ none := by
  rcases accounted with answered | answered <;> rw [answered] <;> exact Option.some_ne_none _

/-- A span is reported as it is up to `2 ^ 64` milliseconds. -/
theorem isAccountedFor_iff_of_answered
    {span : Span}
    (answered : wait invocation = some ⟨span, .ok (delayed span)⟩) :
    IsAccountedFor invocation ↔ span.millis < 2 ^ 64 := by
  have reported : (delayed span).data = [("delayedMs", .ofNat (span.millis % 2 ^ 64))] := rfl
  constructor
  · rintro (refused | ⟨again, -, whole⟩)
    · cases answered.symm.trans refused
    · cases answered.symm.trans again
      rw [reported] at whole
      simp only [Json.ofNat, List.cons.injEq, Prod.mk.injEq, Json.number.injEq,
        Number.integer.injEq, Int.natCast_inj, true_and, and_true] at whole
      exact Nat.mod_eq_iff_lt (Nat.two_pow_pos 64).ne' |>.mp whole
  · intro short
    refine .waited answered rfl ?_
    rw [reported, Nat.mod_eq_of_lt short]

/-- Whatever does not set seconds is accounted for. -/
theorem isAccountedFor_of_not_setsSeconds
    (other : ∀ seconds, ¬SetsSeconds invocation.step.config seconds) :
    IsAccountedFor invocation := by
  rcases absent_or_given invocation.step.config "delayMs" with noMillis | ⟨value, given, notNull⟩
  · rcases absent_or_given invocation.step.config "seconds" with none | ⟨value, given, notNull⟩
    · have answered : wait invocation = some ⟨.zero, .ok (delayed .zero)⟩ := by
        unfold wait delayOf
        rw [configField?_of_absent noMillis, configField?_of_absent none]
      exact (isAccountedFor_iff_of_answered answered).mpr (by decide)
    · cases read : (Tree.ofJson value).float? with
      | some seconds =>
        obtain ⟨number, rfl, nearest⟩ := Tree.float?_ofJson_eq_some_iff.mp read
        exact (other seconds ⟨noMillis, number, given, nearest⟩).elim
      | none =>
        have answered : wait invocation =
            some (atOnce (.error (.invalidConfig ("seconds" ++ ": invalid value")))) := by
          unfold wait delayOf
          rw [configField?_of_absent noMillis, configField?_of_given given notNull, read]
        exact .refused answered
  · cases read : (Tree.ofJson value).nat64? with
    | some millis =>
      have answered : wait invocation =
          some ⟨.ofMillis millis, .ok (delayed (.ofMillis millis))⟩ := by
        unfold wait delayOf
        rw [configField?_of_given given notNull, read]
      refine (isAccountedFor_iff_of_answered answered).mpr ?_
      rw [Span.millis_ofMillis]
      exact Tree.lt_of_nat64?_eq_some read
    | none =>
      have answered : wait invocation =
          some (atOnce (.error (.invalidConfig ("delayMs" ++ ": invalid value")))) := by
        unfold wait delayOf
        rw [configField?_of_given given notNull, read]
      exact .refused answered

namespace SetsSeconds

variable (sets : SetsSeconds invocation.step.config seconds)
include sets

/-- Where some seconds are set, no others have to be considered. -/
theorem setsAtLeast_iff {perSecond count : Nat} :
    SetsAtLeast invocation.step.config perSecond count ↔
      seconds.isFinite = true ∧ count * Double.perOne ≤ perSecond * Double.units seconds := by
  constructor
  · rintro ⟨other, again, finite, many⟩
    obtain rfl := sets.unique again
    exact ⟨finite, many⟩
  · rintro ⟨finite, many⟩
    exact ⟨seconds, sets, finite, many⟩

/-- Seconds that are refused are not many. -/
theorem not_setsAtLeast_of_refused
    (refused : (seconds.isFinite && 0.0 ≤ seconds) = false)
    {perSecond count : Nat}
    (some : 0 < count) :
    ¬SetsAtLeast invocation.step.config perSecond count := by
  rw [sets.setsAtLeast_iff]
  rintro ⟨finite, many⟩
  have negative : Double.units seconds < 0 := by
    simpa [finite, Double.zero_le_iff finite] using refused
  have positive : 0 < (count : Int) * Double.perOne :=
    mul_pos (Int.natCast_pos.mpr some) (Int.natCast_pos.mpr Double.perOne_pos)
  have : (perSecond : Int) * Double.units seconds ≤ 0 :=
    mul_nonpos_of_nonneg_of_nonpos (Int.natCast_nonneg _) negative.le
  omega

/-- Other seconds break the handler down from `2 ^ 64` on, and below it the span has less than
`2 ^ 64` milliseconds exactly if the seconds do. -/
theorem wait_cases (taken : (seconds.isFinite && 0.0 ≤ seconds) = true) :
    wait invocation = none ∧ SetsAtLeast invocation.step.config 1 (2 ^ 64) ∧
      SetsAtLeast invocation.step.config 1000 (2 ^ 64) ∨
    ¬SetsAtLeast invocation.step.config 1 (2 ^ 64) ∧
      ∃ span, wait invocation = some ⟨span, .ok (delayed span)⟩ ∧
        (span.millis < 2 ^ 64 ↔ ¬SetsAtLeast invocation.step.config 1000 (2 ^ 64)) := by
  obtain ⟨finite, positive⟩ := Bool.and_eq_true_iff.mp taken
  have positive := (Double.zero_le_iff finite).mp (of_decide_eq_true positive)
  have double := Binary.isDouble_ofFloat seconds
  have fewer {perSecond nanos : Nat}
      (parts : perSecond * nanos = 1000000000)
      (coarse : perSecond ≤ 1000) :
      Span.nanosOf (.ofFloat seconds) < 2 ^ 64 * nanos ↔
        ¬SetsAtLeast invocation.step.config perSecond (2 ^ 64) := by
    have same : ((Double.units seconds).natAbs : Int) = Double.units seconds :=
      Int.natAbs_of_nonneg positive
    rw [Span.nanosOf_lt_iff double parts coarse, sets.setsAtLeast_iff,
      ← Double.natAbs_units finite, ← same]
    simp only [finite, true_and, not_le]
    norm_cast
  have fewerSeconds := fewer (Nat.one_mul 1000000000) (by decide)
  have fewerMillis := fewer (show 1000 * 1000000 = 1000000000 from rfl) le_rfl
  have answered := (sets.wait_eq.resolve_left fun refused => by
    cases refused.1.symm.trans taken).2
  rw [Span.ofSecondsFloat?_eq finite positive] at answered
  split at answered
  next short =>
    refine .inr ⟨fewerSeconds.mp short, _, answered, ?_⟩
    rw [← fewerMillis]
    exact Nat.div_lt_iff_lt_mul (by decide)
  next long =>
    have longer : ¬Span.nanosOf (.ofFloat seconds) < 2 ^ 64 * 1000000 := fun short =>
      long (short.trans (by decide))
    exact .inl ⟨answered, not_not.mp (fewerSeconds.not.mp long),
      not_not.mp (fewerMillis.not.mp longer)⟩

end SetsSeconds

/-- There are not too many seconds, so many that there is no span of them, or so many that
their milliseconds are not reported. -/
theorem wait_trichotomy (invocation : Invocation) :
    (IsAccountedFor invocation ∧ ¬SetsAtLeast invocation.step.config 1 (2 ^ 64) ∧
      ¬SetsAtLeast invocation.step.config 1000 (2 ^ 64)) ∨
    (wait invocation = none ∧ SetsAtLeast invocation.step.config 1 (2 ^ 64) ∧
      SetsAtLeast invocation.step.config 1000 (2 ^ 64)) ∨
    (∃ span, wait invocation = some ⟨span, .ok (delayed span)⟩ ∧ 2 ^ 64 ≤ span.millis ∧
      ¬SetsAtLeast invocation.step.config 1 (2 ^ 64) ∧
      SetsAtLeast invocation.step.config 1000 (2 ^ 64)) := by
  by_cases set : ∃ seconds, SetsSeconds invocation.step.config seconds
  · obtain ⟨seconds, sets⟩ := set
    rcases sets.wait_eq with ⟨refused, message, answered⟩ | ⟨taken, -⟩
    · have few (perSecond : Nat) : ¬SetsAtLeast invocation.step.config perSecond (2 ^ 64) :=
        sets.not_setsAtLeast_of_refused refused (Nat.two_pow_pos 64)
      exact .inl ⟨.refused answered, few 1, few 1000⟩
    · rcases sets.wait_cases taken with broken | ⟨few, span, answered, reported⟩
      · exact .inr (.inl broken)
      · by_cases short : span.millis < 2 ^ 64
        · exact .inl ⟨(isAccountedFor_iff_of_answered answered).mpr short, few,
            reported.mp short⟩
        · exact .inr (.inr ⟨span, answered, not_lt.mp short, few,
            not_not.mp (reported.not.mp short)⟩)
  · have few (perSecond : Nat) : ¬SetsAtLeast invocation.step.config perSecond (2 ^ 64) :=
      fun ⟨seconds, sets, _⟩ => set ⟨seconds, sets⟩
    exact .inl ⟨isAccountedFor_of_not_setsSeconds (not_exists.mp set), few 1, few 1000⟩

/-- A delay is accounted for exactly if its configuration does not set `2 ^ 64` milliseconds or
more in seconds.  From `2 ^ 64` seconds on the handler breaks down.  In between it waits for a
span, but leaves a multiple of `2 ^ 64` out of the milliseconds that it reports. -/
theorem delay_accounted_iff (invocation : Invocation) :
    (IsAccountedFor invocation ↔ ¬SetsAtLeast invocation.step.config 1000 (2 ^ 64)) ∧
    (wait invocation = none ↔ SetsAtLeast invocation.step.config 1 (2 ^ 64)) ∧
    (SetsAtLeast invocation.step.config 1000 (2 ^ 64) →
      ¬SetsAtLeast invocation.step.config 1 (2 ^ 64) →
        ∃ span, wait invocation = some ⟨span, .ok (delayed span)⟩ ∧ 2 ^ 64 ≤ span.millis) := by
  rcases wait_trichotomy invocation with ⟨accounted, few, fewer⟩ | ⟨broken, most, many⟩ |
    ⟨span, answered, long, few, many⟩
  · exact ⟨iff_of_true accounted fewer, iff_of_false accounted.wait_ne_none few,
      fun many => (fewer many).elim⟩
  · exact ⟨iff_of_false (fun accounted => accounted.wait_ne_none broken) (not_not.mpr many),
      iff_of_true broken most, fun _ few => (few most).elim⟩
  · have answers : wait invocation ≠ none := by
      rw [answered]
      exact Option.some_ne_none _
    have misreported : ¬IsAccountedFor invocation :=
      (isAccountedFor_iff_of_answered answered).not.mpr (not_lt.mpr long)
    exact ⟨iff_of_false misreported (not_not.mpr many), iff_of_false answers few,
      fun _ _ => ⟨span, answered, long⟩⟩

/-- A step that delays by some seconds. -/
def sleeping (seconds : Float) : Invocation where
  step :=
    { id := "nap", type := .delay
      config := .object [("seconds", .number (.decimal seconds))] }
  input := []
  context := .create "run" "orders" [] [] {} .zero

/-- Seconds of which there is no span break the handler down, and of a long span the
milliseconds are not reported as they are. -/
theorem delay_not_accounted :
    wait (sleeping 1e30) = none ∧
    wait (sleeping 1e19) =
      some ⟨.ofSeconds 10000000000000000000,
        .ok (StepResult.succeed.withOutput "delayedMs" (.ofNat 1864712049423024128))⟩ ∧
    ¬IsAccountedFor (sleeping 1e30) ∧ ¬IsAccountedFor (sleeping 1e19) := by
  have answers
      (seconds : Float)
      (taken : (seconds.isFinite && 0.0 ≤ seconds) = true) :
      wait (sleeping seconds) =
        (Span.ofSecondsFloat? seconds).map fun span => ⟨span, .ok (delayed span)⟩ := by
    have sets : SetsSeconds (sleeping seconds).step.config seconds :=
      ⟨.inl rfl, .decimal seconds, rfl, rfl⟩
    exact (sets.wait_eq.resolve_left fun refused => by cases refused.1.symm.trans taken).2
  have broken : wait (sleeping 1e30) = none := by
    have none : Span.ofSecondsFloat? 1e30 = none := by decide +kernel
    rw [answers 1e30 (by decide +kernel), none, Option.map_none]
  have long : wait (sleeping 1e19) = some ⟨.ofSeconds 10000000000000000000,
      .ok (delayed (.ofSeconds 10000000000000000000))⟩ := by
    have some : Span.ofSecondsFloat? 1e19 = some (.ofSeconds 10000000000000000000) := by
      decide +kernel
    rw [answers 1e19 (by decide +kernel), some, Option.map_some]
  refine ⟨broken, long, fun accounted => accounted.wait_ne_none broken, ?_⟩
  rw [isAccountedFor_iff_of_answered long]
  decide

end Builtin
end WorkflowEngine
