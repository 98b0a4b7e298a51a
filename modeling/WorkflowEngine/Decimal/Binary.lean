/-!
# Binary floating-point values as exact numbers

A finite floating-point value is a natural significand times a power of two.
The reals that round to it form an interval; `Binary.readsBack` decides by
exact integer arithmetic whether a decimal lies in that interval.
-/

namespace WorkflowEngine
namespace Decimal

/-- The magnitude of a finite floating-point value,
`significand * 2 ^ exponent`. -/
structure Binary where
  significand : Nat
  exponent : Int
  /-- The gap to the value below is half the gap to the value above. -/
  narrowBelow : Bool
deriving Repr, DecidableEq

/-- A decimal number, `digits * 10 ^ exponent`. -/
structure Scaled where
  digits : Nat
  exponent : Int
deriving Repr, DecidableEq

/-- The magnitude held by the bits of a finite double-precision value. -/
def Binary.ofFloat (value : Float) : Binary :=
  let bits := value.toBits
  let biased := ((bits >>> 52) &&& 0x7FF).toNat
  let fraction := (bits &&& 0xFFFFFFFFFFFFF).toNat
  if biased = 0 then ⟨fraction, -1074, false⟩
  else ⟨Nat.pow 2 52 + fraction, (biased : Int) - 1075, fraction = 0 && 1 < biased⟩

/-- The magnitude held by the bits of a finite single-precision value. -/
def Binary.ofFloat32 (value : Float32) : Binary :=
  let bits := value.toBits
  let biased := ((bits >>> 23) &&& 0xFF).toNat
  let fraction := (bits &&& 0x7FFFFF).toNat
  if biased = 0 then ⟨fraction, -149, false⟩
  else ⟨Nat.pow 2 23 + fraction, (biased : Int) - 150, fraction = 0 && 1 < biased⟩

/-- Compares `a * 10 ^ i` with `n * 2 ^ j` exactly. -/
def compareScaled
    (a : Nat)
    (i : Int)
    (n : Nat)
    (j : Int) : Ordering :=
  compare (a * Nat.pow 10 i.toNat * Nat.pow 2 (-j).toNat)
    (n * Nat.pow 2 j.toNat * Nat.pow 10 (-i).toNat)

/-- A decimal reads back as a value when it lies between the midpoints to its
two neighbours; a midpoint itself belongs to the even significand. -/
def Binary.readsBack (value : Binary) (decimal : Scaled) : Bool :=
  let low := if value.narrowBelow then 4 * value.significand - 1 else 4 * value.significand - 2
  let high := 4 * value.significand + 2
  let inclusive := value.significand % 2 == 0
  let below := compareScaled decimal.digits decimal.exponent low (value.exponent - 2)
  let above := compareScaled decimal.digits decimal.exponent high (value.exponent - 2)
  (below == .gt || (inclusive && below == .eq)) && (above == .lt || (inclusive && above == .eq))

end Decimal
end WorkflowEngine
