import WorkflowEngine.Decimal.Binary

/-!
# Shortest decimals

`Binary.shortest` selects the decimal with the fewest digits that reads back to
a binary value; among decimals of that length it takes the closest one.  The
search tries one digit, two digits and so on, and on each decimal grid looks at
the two neighbours of the value, all in exact integer arithmetic.
-/

namespace WorkflowEngine
namespace Decimal

/-- What decides between two equally close decimals of one length. -/
inductive Tie where
  | toEven
  | upward
deriving Repr, DecidableEq

/-- The number of decimal digits of a natural number; zero has one. -/
def digitCount (value : Nat) : Nat := (Nat.toDigits 10 value).length

/-- The floor of `significand * 2 ^ exponent / 10 ^ grid`. -/
def Binary.floorOn (value : Binary) (grid : Int) : Nat :=
  (value.significand * Nat.pow 2 value.exponent.toNat * Nat.pow 10 (-grid).toNat) /
    (Nat.pow 2 (-value.exponent).toNat * Nat.pow 10 grid.toNat)

/-- The least scale `k` with `value < 10 ^ k`, for a value that is not zero. -/
def Binary.scale (value : Binary) : Int :=
  let whole := value.floorOn 0
  if 0 < whole then digitCount whole
  else
    -- A value below one has at most `-exponent` leading zeros after the point.
    let places := (-value.exponent).toNat
    let scaled := value.floorOn (-(places : Int))
    (digitCount scaled : Int) - places

/-- The candidate of one grid: of the two neighbours on it, the closer one that
reads back. -/
def Binary.candidate? (value : Binary) (tie : Tie) (grid : Int) : Option Scaled :=
  let lower : Scaled := ⟨value.floorOn grid, grid⟩
  let upper : Scaled := ⟨value.floorOn grid + 1, grid⟩
  match value.readsBack lower, value.readsBack upper with
  | true, false => some lower
  | false, true => some upper
  | false, false => none
  | true, true =>
    match compareScaled (lower.digits + upper.digits) grid (2 * value.significand) value.exponent with
    | .gt => some lower
    | .lt => some upper
    | .eq =>
      match tie with
      | .upward => some upper
      | .toEven => if lower.digits % 2 = 0 then some lower else some upper

/-- Moves trailing zeros of the digits into the exponent, at most `fuel` of
them. -/
def Scaled.stripZeros : Nat → Scaled → Scaled
  | 0, decimal => decimal
  | fuel + 1, decimal =>
    if decimal.digits ≠ 0 ∧ decimal.digits % 10 = 0 then
      stripZeros fuel ⟨decimal.digits / 10, decimal.exponent + 1⟩
    else decimal

/-- The exact decimal value of a binary value. -/
def Binary.exact (value : Binary) : Scaled :=
  ⟨value.significand * Nat.pow 2 value.exponent.toNat * Nat.pow 5 (-value.exponent).toNat,
    -((-value.exponent).toNat : Int)⟩

/-- The decimal with the fewest digits that reads back to the value, closest
first. -/
def Binary.shortest (value : Binary) (tie : Tie) : Scaled :=
  if value.significand = 0 then ⟨0, 0⟩
  else
    let scale := value.scale
    let found := (List.range 17).findSome? fun count =>
      value.candidate? tie (scale - (count + 1 : Nat))
    (found.getD value.exact).stripZeros 400

end Decimal
end WorkflowEngine
