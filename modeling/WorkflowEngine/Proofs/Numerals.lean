import Mathlib
import WorkflowEngine.Json.Printer
import WorkflowEngine.Proofs.ShortestDecimals
import WorkflowEngine.Text.Basic

/-!
# Numerals

No two numbers have one written form.  The numeral of a floating-point number stands for
the decimal selected for the number, and tells by a point or an exponent that the number is
no integer.
-/

namespace WorkflowEngine
namespace Decimal

/-! ## Reading numerals -/

/-- The digits behind a point, and what follows. -/
def fractionOf : List Char → List Char × List Char
  | '.' :: rest => rest.span Char.isDigit
  | rest => ([], rest)

/-- The exponent behind its mark. -/
def exponentOf : List Char → Int
  | 'e' :: '-' :: digits => -(Nat.ofDigitChars 10 digits 0 : Int)
  | 'e' :: '+' :: digits => Nat.ofDigitChars 10 digits 0
  | _ => 0

/-- The size that a numeral without a sign stands for. -/
def numeralSize (text : List Char) : ℚ :=
  let (whole, behind) := text.span Char.isDigit
  let (fraction, ending) := fractionOf behind
  Nat.ofDigitChars 10 (whole ++ fraction) 0 * 10 ^ (exponentOf ending - fraction.length)

/-- Nothing but decimal digits. -/
def AreDigits (text : List Char) : Prop := ∀ char ∈ text, char.isDigit = true

section

variable {whole fraction ending digits : List Char}

theorem AreDigits.append (first : AreDigits whole) (second : AreDigits fraction) :
    AreDigits (whole ++ fraction) := fun char member =>
  (List.mem_append.mp member).elim (first char) (second char)

theorem areDigits_replicate (count : Nat) : AreDigits (List.replicate count '0') := by
  intro char member
  rw [List.eq_of_mem_replicate member]
  rfl

theorem areDigits_digitChars (value : Nat) : AreDigits (digitChars value) := fun _ =>
  Nat.isDigit_of_mem_toDigits (by decide) (by decide)

/-- Characters are taken up to the first one that fails the test. -/
theorem span_append
    {test : Char → Bool}
    (all : ∀ char ∈ whole, test char = true)
    (ends : ∀ char ∈ ending.head?, test char = false) :
    (whole ++ ending).span test = (whole, ending) := by
  rw [List.span_eq_takeWhile_dropWhile, Text.takeWhile_append_of_ends all ends,
    Text.dropWhile_append_of_ends all ends]

/-- The digits behind a point count as many powers of ten less. -/
theorem numeralSize_point
    (ending : List Char)
    (digits : AreDigits whole)
    (digits' : AreDigits fraction)
    (ends : ∀ char ∈ ending.head?, char.isDigit = false) :
    numeralSize (whole ++ '.' :: (fraction ++ ending)) =
      Nat.ofDigitChars 10 (whole ++ fraction) 0 *
        10 ^ (exponentOf ending - fraction.length) := by
  have point : fractionOf ('.' :: (fraction ++ ending)) = (fraction, ending) :=
    span_append digits' ends
  unfold numeralSize
  rw [span_append digits (by rintro _ ⟨⟩; rfl)]
  dsimp only
  rw [point]

/-- Without a point the exponent alone counts. -/
theorem numeralSize_mark (digits : AreDigits whole) (ending : List Char) :
    numeralSize (whole ++ 'e' :: ending) =
      Nat.ofDigitChars 10 whole 0 * 10 ^ exponentOf ('e' :: ending) := by
  unfold numeralSize
  rw [span_append digits (by rintro _ ⟨⟩; rfl)]
  show ((Nat.ofDigitChars 10 (whole ++ []) 0 : Nat) : ℚ) * 10 ^ (exponentOf ('e' :: ending) - 0) = _
  rw [List.append_nil, Int.sub_zero]

end

/-! ## Layouts -/

section

variable {layout : Layout} {digits : List Char} {whole : Int}

/-- Positional notation stands for the digits with the point where it is put. -/
theorem numeralSize_positional
    (pointed : layout.pointZero = true)
    (areDigits : AreDigits digits)
    (whole : Int) :
    numeralSize (positional layout digits whole) =
      Nat.ofDigitChars 10 digits 0 * 10 ^ (whole - digits.length) := by
  unfold positional
  split
  next small =>
    have zeros : AreDigits (List.replicate (-whole).toNat '0' ++ digits) :=
      (areDigits_replicate _).append areDigits
    have read := numeralSize_point [] (areDigits_replicate 1) zeros (by simp)
    rw [List.append_nil] at read
    refine read.trans ?_
    rw [← List.append_assoc, List.replicate_append_replicate, Nat.ofDigitChars_append,
      Nat.ofDigitChars_replicate_zero, Nat.mul_zero]
    congr 2
    simp [exponentOf]
    omega
  next positive =>
    split
    next long =>
      have zeros : AreDigits (digits ++ List.replicate (whole.toNat - digits.length) '0') :=
        areDigits.append (areDigits_replicate _)
      have read := numeralSize_point [] zeros (areDigits_replicate 1) (by simp)
      rw [List.append_nil] at read
      refine read.trans ?_
      rw [List.append_assoc, List.replicate_append_replicate, Nat.ofDigitChars_append,
        Nat.ofDigitChars_replicate_zero]
      have raised : whole - (digits.length : Int) = (whole.toNat - digits.length : Nat) := by omega
      show (_ : ℚ) * 10 ^ (-1 : Int) = _
      rw [raised, zpow_natCast, zpow_neg_one]
      push_cast
      ring
    next short =>
      have front : AreDigits (digits.take whole.toNat) := fun char member =>
        areDigits char (List.mem_of_mem_take member)
      have back : AreDigits (digits.drop whole.toNat) := fun char member =>
        areDigits char (List.mem_of_mem_drop member)
      have read := numeralSize_point [] front back (by simp)
      rw [List.append_nil, List.take_append_drop, List.length_drop] at read
      refine read.trans ?_
      congr 2
      simp only [exponentOf]
      omega

/-- The exponent that is written is the one that is read. -/
theorem exponentOf_scientific (leading : Int) :
    exponentOf ('e' :: (if leading < 0 then '-' else '+') :: digitChars leading.natAbs) =
      leading := by
  split
  next negative =>
    show -((Nat.ofDigitChars 10 (Nat.toDigits 10 leading.natAbs) 0 : Nat) : Int) = leading
    rw [Nat.ofDigitChars_ten_toDigits]
    omega
  next positive =>
    show ((Nat.ofDigitChars 10 (Nat.toDigits 10 leading.natAbs) 0 : Nat) : Int) = leading
    rw [Nat.ofDigitChars_ten_toDigits]
    omega

/-- So does scientific notation, with one digit in front of the point. -/
theorem numeralSize_scientific
    (areDigits : AreDigits digits)
    (some : digits ≠ [])
    (leading : Int) :
    numeralSize (scientific digits leading) =
      Nat.ofDigitChars 10 digits 0 * 10 ^ (leading + 1 - digits.length) := by
  have exponent := exponentOf_scientific leading
  unfold scientific
  match digits, some with
  | [single], _ =>
    refine (numeralSize_mark areDigits _).trans ?_
    rw [exponent]
    simp
  | first :: second :: rest, _ =>
    have front : AreDigits [first] := fun char member =>
      areDigits char (List.mem_cons.mpr (.inl (List.mem_singleton.mp member)))
    have back : AreDigits (second :: rest) := fun char member =>
      areDigits char (List.mem_cons_of_mem _ member)
    refine (numeralSize_point _ front back ?_).trans ?_
    · rintro _ ⟨⟩
      rfl
    · rw [exponent]
      congr 2
      simp only [List.length_cons]
      omega

/-- The numeral of a decimal stands for the decimal. -/
theorem numeralSize_scaled (pointed : layout.pointZero = true) (decimal : Scaled) :
    numeralSize (layout.scaled decimal) = decimal.size := by
  have digits := areDigits_digitChars decimal.digits
  have read : Nat.ofDigitChars 10 (digitChars decimal.digits) 0 = decimal.digits :=
    Nat.ofDigitChars_ten_toDigits
  unfold Layout.scaled Scaled.size
  split
  next zero =>
    rw [zero]
    refine (numeralSize_point [] (areDigits_replicate 1) (areDigits_replicate 1) (by simp)).trans ?_
    simp [Nat.ofDigitChars]
  next =>
    dsimp only
    split
    · rw [numeralSize_positional pointed digits, read]
      congr 2
      omega
    · rw [numeralSize_scientific digits Nat.toDigits_ne_nil, read]
      congr 2
      omega

end

/-! ## The form of numerals -/

/-- The characters of numerals. -/
def isNumeric (char : Char) : Bool :=
  char.isDigit || char == '.' || char == 'e' || char == '+' || char == '-'

/-- Digits and then a point or the mark of an exponent. -/
def IsPointed (text : List Char) : Prop :=
  ∃ first whole mark rest, text = first :: (whole ++ mark :: rest) ∧
    AreDigits (first :: whole) ∧ (mark = '.' ∨ mark = 'e') ∧ ∀ char ∈ rest, isNumeric char = true

section

variable {layout : Layout} {digits text : List Char}

theorem AreDigits.isNumeric (areDigits : AreDigits digits) :
    ∀ char ∈ digits, isNumeric char = true := by
  intro char member
  unfold Decimal.isNumeric
  rw [areDigits char member]
  rfl

theorem IsPointed.isNumeric (pointed : IsPointed text) : ∀ char ∈ text, isNumeric char = true := by
  obtain ⟨first, whole, mark, rest, rfl, areDigits, marks, numeric⟩ := pointed
  intro char member
  rw [← List.cons_append] at member
  rcases List.mem_append.mp member with inside | behind
  · exact areDigits.isNumeric char inside
  · rcases List.mem_cons.mp behind with rfl | behind
    · rcases marks with rfl | rfl <;> rfl
    · exact numeric char behind

theorem IsPointed.ne_nil (pointed : IsPointed text) : text ≠ [] := by
  obtain ⟨first, whole, mark, rest, rfl, -⟩ := pointed
  exact List.cons_ne_nil _ _

/-- An integer has no point and no exponent. -/
theorem IsPointed.not_areDigits (pointed : IsPointed text) : ¬AreDigits text := by
  obtain ⟨first, whole, mark, rest, rfl, -, marks, -⟩ := pointed
  intro areDigits
  have digit := areDigits mark (by simp)
  rcases marks with rfl | rfl <;> cases digit

/-- A decimal that is written out in full has a point. -/
theorem isPointed_positional
    (pointed : layout.pointZero = true)
    (areDigits : AreDigits digits)
    (some : digits ≠ [])
    (whole : Int) :
    IsPointed (positional layout digits whole) := by
  unfold positional
  split
  next =>
    exact ⟨'0', [], '.', _, rfl, areDigits_replicate 1, .inl rfl,
      ((areDigits_replicate _).append areDigits).isNumeric⟩
  next positive =>
    obtain ⟨first, rest, rfl⟩ := List.exists_cons_of_ne_nil some
    split
    next =>
      exact ⟨first, rest ++ List.replicate (whole.toNat - (first :: rest).length) '0', '.', ['0'],
        by simp, areDigits.append (areDigits_replicate _), .inl rfl,
        (areDigits_replicate 1).isNumeric⟩
    next =>
      obtain ⟨before, same⟩ : ∃ before, whole.toNat = before + 1 := ⟨whole.toNat - 1, by omega⟩
      rw [same]
      refine ⟨first, rest.take before, '.', rest.drop before, rfl, fun char member => ?_, .inl rfl,
        AreDigits.isNumeric fun char member => ?_⟩
      · exact areDigits char (List.mem_of_mem_take (i := before + 1) member)
      · exact areDigits char (List.mem_of_mem_drop (i := before + 1) member)

/-- A decimal with an exponent has the mark of it. -/
theorem isPointed_scientific
    (areDigits : AreDigits digits)
    (some : digits ≠ [])
    (leading : Int) :
    IsPointed (scientific digits leading) := by
  have numeric : ∀ char ∈ (if leading < 0 then '-' else '+') :: digitChars leading.natAbs,
      isNumeric char = true := by
    rintro char (_ | ⟨_, member⟩)
    · split <;> rfl
    · exact (areDigits_digitChars _).isNumeric char member
  unfold scientific
  match digits, some with
  | [single], _ => exact ⟨single, [], 'e', _, rfl, areDigits, .inr rfl, numeric⟩
  | first :: second :: rest, _ =>
    refine ⟨first, [], '.', _, rfl, fun char member => ?_, .inl rfl, fun char member => ?_⟩
    · exact areDigits char (List.mem_cons.mpr (.inl (List.mem_singleton.mp member)))
    · rcases List.mem_append.mp member with digit | member
      · exact areDigits.isNumeric char (List.mem_cons_of_mem _ digit)
      · rcases List.mem_cons.mp member with rfl | member
        · rfl
        · exact numeric char member

/-- A decimal has a point or an exponent, however it is written. -/
theorem isPointed_scaled (pointed : layout.pointZero = true) (decimal : Scaled) :
    IsPointed (layout.scaled decimal) := by
  have digits := areDigits_digitChars decimal.digits
  unfold Layout.scaled
  split
  next =>
    exact ⟨'0', [], '.', ['0'], rfl, areDigits_replicate 1, .inl rfl,
      (areDigits_replicate 1).isNumeric⟩
  next =>
    dsimp only
    split
    · exact isPointed_positional pointed digits Nat.toDigits_ne_nil _
    · exact isPointed_scientific digits Nat.toDigits_ne_nil _

end

/-! ## Floating-point numbers -/

namespace Binary

/-- The bits of the exponent. -/
theorem toNat_biased (bits : UInt64) :
    ((bits >>> 52) &&& 0x7FF).toNat = bits.toNat / 2 ^ 52 % 2 ^ 11 := by
  rw [UInt64.toNat_and, UInt64.toNat_shiftRight, ← Nat.shiftRight_eq_div_pow]
  exact Nat.and_two_pow_sub_one_eq_mod _ 11

/-- The bits of the fraction. -/
theorem toNat_fraction (bits : UInt64) :
    (bits &&& 0xFFFFFFFFFFFFF).toNat = bits.toNat % 2 ^ 52 := by
  rw [UInt64.toNat_and]
  exact Nat.and_two_pow_sub_one_eq_mod _ 52

/-- The bit of the sign. -/
theorem shiftRight_eq_one_iff (bits : UInt64) : bits >>> 63 = 1 ↔ 2 ^ 63 ≤ bits.toNat := by
  have bounded := bits.toNat_lt
  rw [← UInt64.toNat_inj, UInt64.toNat_shiftRight]
  show bits.toNat >>> 63 = 1 ↔ _
  rw [Nat.shiftRight_eq_div_pow]
  omega

/-- Every floating-point number has the form of one. -/
theorem isDouble_ofFloat (value : Float) : (ofFloat value).IsDouble := by
  have biased := toNat_biased value.toBits
  have fraction := toNat_fraction value.toBits
  unfold ofFloat
  dsimp only
  split
  next least =>
    refine ⟨?_, le_rfl, .inl rfl, ?_⟩
    · dsimp only
      omega
    · simp
  next =>
    refine ⟨?_, ?_, .inr (Nat.le_add_right _ _), ?_⟩
    · show 2 ^ 52 + _ < 2 ^ 53
      omega
    · dsimp only
      omega
    · rw [Bool.and_eq_true_iff, decide_eq_true_iff, decide_eq_true_iff]
      show _ ↔ 2 ^ 52 + _ = 2 ^ 52 ∧ _
      dsimp only
      omega

/-- The exponent of a number can be read from its form. -/
theorem biased_eq (value : Float) :
    (((value.toBits >>> 52) &&& 0x7FF).toNat : Int) =
      if (ofFloat value).significand < 2 ^ 52 then 0 else (ofFloat value).exponent + 1075 := by
  have fraction := toNat_fraction value.toBits
  unfold ofFloat
  dsimp only
  split
  next least =>
    rw [if_pos (by dsimp only; omega), least]
    rfl
  next =>
    have normal : ¬2 ^ 52 + (value.toBits &&& 0xFFFFFFFFFFFFF).toNat < 2 ^ 52 := by omega
    refine Eq.trans ?_ (if_neg normal).symm
    dsimp only
    omega

/-- So can its fraction. -/
theorem fraction_eq (value : Float) :
    (value.toBits &&& 0xFFFFFFFFFFFFF).toNat = (ofFloat value).significand % 2 ^ 52 := by
  have fraction := toNat_fraction value.toBits
  unfold ofFloat
  dsimp only
  split
  next =>
    dsimp only
    omega
  next =>
    show _ = (2 ^ 52 + _) % 2 ^ 52
    omega

/-- A floating-point number is told by its magnitude and its sign. -/
theorem eq_of_ofFloat
    {first second : Float}
    (same : ofFloat first = ofFloat second)
    (signs : first.toBits >>> 63 = 1 ↔ second.toBits >>> 63 = 1) :
    first = second := by
  have exponents : ((first.toBits >>> 52) &&& 0x7FF).toNat =
      ((second.toBits >>> 52) &&& 0x7FF).toNat := by
    rw [← Int.natCast_inj, biased_eq, biased_eq, same]
  have fractions : (first.toBits &&& 0xFFFFFFFFFFFFF).toNat =
      (second.toBits &&& 0xFFFFFFFFFFFFF).toNat := by
    rw [fraction_eq, fraction_eq, same]
  rw [toNat_biased, toNat_biased] at exponents
  rw [toNat_fraction, toNat_fraction] at fractions
  rw [shiftRight_eq_one_iff, shiftRight_eq_one_iff] at signs
  have bounded := first.toBits.toNat_lt
  have bounded' := second.toBits.toNat_lt
  rw [← Float.toBits_inj, ← UInt64.toNat_inj]
  omega

end Binary

/-! ## Signs -/

/-- A sign can be told from what follows it. -/
theorem eq_of_signed
    {negative negative' : Prop}
    [Decidable negative]
    [Decidable negative']
    {magnitude magnitude' : List Char}
    (unsigned : '-' ∉ magnitude.head?)
    (unsigned' : '-' ∉ magnitude'.head?)
    (same : (if negative then '-' :: magnitude else magnitude) =
      if negative' then '-' :: magnitude' else magnitude') :
    (negative ↔ negative') ∧ magnitude = magnitude' := by
  split at same <;> split at same
  next first second => exact ⟨iff_of_true first second, List.tail_eq_of_cons_eq same⟩
  next => exact absurd (congrArg List.head? same ▸ rfl) unsigned'
  next => exact absurd (congrArg List.head? same ▸ rfl) unsigned
  next first second => exact ⟨iff_of_false first second, same⟩

theorem AreDigits.unsigned {digits : List Char} (areDigits : AreDigits digits) :
    '-' ∉ digits.head? := fun member => by
  cases areDigits '-' (List.mem_of_mem_head? member)

/-- A size is written without a sign. -/
theorem IsPointed.unsigned {text : List Char} (pointed : IsPointed text) : '-' ∉ text.head? := by
  obtain ⟨first, whole, mark, rest, rfl, areDigits, -⟩ := pointed
  exact fun member => areDigits.unsigned member

/-- No two natural numbers have one written form. -/
theorem eq_of_digitChars {first second : Nat} (same : digitChars first = digitChars second) :
    first = second := by
  have read := congrArg (Nat.ofDigitChars 10 · 0) same
  exact Nat.ofDigitChars_ten_toDigits.symm.trans (read.trans Nat.ofDigitChars_ten_toDigits)

/-- No two floating-point numbers have one written form. -/
theorem Layout.eq_of_float
    {layout : Layout}
    {first second : Float}
    (pointed : layout.pointZero = true)
    (same : layout.float first = layout.float second) :
    first = second := by
  obtain ⟨signs, magnitudes⟩ := eq_of_signed (isPointed_scaled pointed _).unsigned
    (isPointed_scaled pointed _).unsigned same
  have sizes := congrArg numeralSize magnitudes
  rw [numeralSize_scaled pointed, numeralSize_scaled pointed] at sizes
  exact Binary.eq_of_ofFloat ((Binary.isDouble_ofFloat first).eq_of_shortest
    (Binary.isDouble_ofFloat second) layout.tie sizes) signs

end Decimal

namespace Number

open Decimal

/-! ## Written numbers -/

/-- No two integers have one written form. -/
theorem eq_of_integerChars {first second : Int} (same : integerChars first = integerChars second) :
    first = second := by
  obtain ⟨signs, magnitudes⟩ := eq_of_signed (areDigits_digitChars _).unsigned
    (areDigits_digitChars _).unsigned same
  have sizes := eq_of_digitChars magnitudes
  omega

/-- An integer is never written as a floating-point number is. -/
theorem integerChars_ne_float (whole : Int) (value : Float) :
    integerChars whole ≠ layout.float value := by
  intro same
  have pointed : IsPointed (layout.scaled ((Binary.ofFloat value).shortest layout.tie)) :=
    isPointed_scaled rfl _
  obtain ⟨-, magnitudes⟩ := eq_of_signed (areDigits_digitChars _).unsigned pointed.unsigned same
  exact pointed.not_areDigits (magnitudes ▸ areDigits_digitChars _)

/-- No two numbers have one written form. -/
theorem print_injective : Function.Injective Number.print := by
  intro first second same
  cases first with
  | integer whole =>
    cases second with
    | integer whole' => rw [eq_of_integerChars same]
    | decimal value => exact absurd same (integerChars_ne_float whole value)
  | decimal value =>
    cases second with
    | integer whole => exact absurd same.symm (integerChars_ne_float whole value)
    | decimal value' => rw [Layout.eq_of_float rfl same]

/-- A number is written in the characters of numerals, with a sign or without one. -/
theorem exists_magnitude (number : Number) :
    ∃ magnitude, magnitude ≠ [] ∧ (∀ char ∈ magnitude, isNumeric char = true) ∧
      (number.print = magnitude ∨ number.print = '-' :: magnitude) := by
  cases number with
  | integer whole =>
    refine ⟨digitChars whole.natAbs, Nat.toDigits_ne_nil, (areDigits_digitChars _).isNumeric, ?_⟩
    show integerChars whole = _ ∨ integerChars whole = _
    unfold integerChars
    split
    · exact .inr rfl
    · exact .inl rfl
  | decimal value =>
    have pointed : IsPointed (layout.scaled ((Binary.ofFloat value).shortest layout.tie)) :=
      isPointed_scaled rfl _
    refine ⟨_, pointed.ne_nil, pointed.isNumeric, ?_⟩
    show layout.float value = _ ∨ layout.float value = _
    unfold Layout.float
    dsimp only
    split
    · exact .inr rfl
    · exact .inl rfl

/-- A number is written with the characters of numerals alone. -/
theorem isNumeric_of_mem_print (number : Number) :
    ∀ char ∈ number.print, isNumeric char = true := by
  obtain ⟨magnitude, -, numeric, same | same⟩ := number.exists_magnitude
  · exact same ▸ numeric
  · exact same ▸ List.forall_mem_cons.mpr ⟨rfl, numeric⟩

theorem print_ne_nil (number : Number) : number.print ≠ [] := by
  obtain ⟨magnitude, some, -, same | same⟩ := number.exists_magnitude
  · exact same ▸ some
  · exact same ▸ List.cons_ne_nil _ _

/-- Numbers can be told from what follows them, where it goes on in other characters. -/
theorem print_append_injective
    {first second : Number}
    {ending ending' : List Char}
    (ends : ∀ char ∈ ending.head?, isNumeric char = false)
    (ends' : ∀ char ∈ ending'.head?, isNumeric char = false)
    (same : first.print ++ ending = second.print ++ ending') :
    first = second ∧ ending = ending' := by
  have spans := congrArg (List.span isNumeric) same
  rw [span_append first.isNumeric_of_mem_print ends,
    span_append second.isNumeric_of_mem_print ends'] at spans
  exact ⟨print_injective (congrArg Prod.fst spans), congrArg Prod.snd spans⟩

end Number
end WorkflowEngine
