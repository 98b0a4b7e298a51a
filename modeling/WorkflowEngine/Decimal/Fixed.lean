import WorkflowEngine.Decimal.Binary

/-!
# Decimals with a fixed number of places

Numbers written with a given number of places behind the point.  The exact
value is rounded to the nearest such number, halves to the one with an even
last digit.
-/

namespace WorkflowEngine
namespace Decimal

/-- The quotient nearest to an exact one; a half goes to the even neighbour. -/
def roundQuotient (numerator denominator : Nat) : Nat :=
  let quotient := numerator / denominator
  let twice := 2 * (numerator % denominator)
  if twice < denominator then quotient
  else if denominator < twice then quotient + 1
  else quotient + quotient % 2

/-- Digits with a point before the last `places` of them. -/
def withPoint (places value : Nat) : List Char :=
  if places = 0 then Nat.toDigits 10 value
  else
    let digits := Nat.toDigits 10 value
    let padded := List.replicate (places + 1 - digits.length) '0' ++ digits
    padded.take (padded.length - places) ++ '.' :: padded.drop (padded.length - places)

/-- A magnitude with a fixed number of places. -/
def Binary.fixed (value : Binary) (places : Nat) : List Char :=
  withPoint places
    (roundQuotient (value.significand * Nat.pow 2 value.exponent.toNat * Nat.pow 10 places)
      (Nat.pow 2 (-value.exponent).toNat))

/-- A finite double-precision number with a fixed number of places. -/
def fixedFloat (places : Nat) (value : Float) : String :=
  let magnitude := (Binary.ofFloat value).fixed places
  String.ofList (if value.toBits >>> 63 = 1 then '-' :: magnitude else magnitude)

/-- A finite single-precision number with a fixed number of places. -/
def fixedFloat32 (places : Nat) (value : Float32) : String :=
  let magnitude := (Binary.ofFloat32 value).fixed places
  String.ofList (if value.toBits >>> 31 = 1 then '-' :: magnitude else magnitude)

end Decimal
end WorkflowEngine
