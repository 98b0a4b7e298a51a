import WorkflowEngine.Decimal.Shortest

/-!
# Laying out decimals

A selected decimal becomes text by a handful of decisions, collected in
`Layout`: which magnitudes are written positionally, whether an integral value
keeps its `.0`, and how equally close digits are chosen.
-/

namespace WorkflowEngine
namespace Decimal

/-- The decisions of one way of writing floating-point numbers. -/
structure Layout where
  /-- Least exponent of the leading digit that is written positionally. -/
  plainFrom : Option Int
  /-- Least exponent of the leading digit that is no longer written
  positionally. -/
  plainBelow : Option Int
  /-- An integral value keeps a point and a zero. -/
  pointZero : Bool
  /-- Choice between two equally close decimals. -/
  tie : Tie

/-- The decimal digits of a natural number. -/
def digitChars (value : Nat) : List Char := Nat.toDigits 10 value

/-- Writes digits with the point after `whole` of them, where `whole` may lie
outside the digits. -/
def positional
    (layout : Layout)
    (digits : List Char)
    (whole : Int) : List Char :=
  if whole ≤ 0 then
    '0' :: '.' :: (List.replicate (-whole).toNat '0' ++ digits)
  else if digits.length ≤ whole.toNat then
    digits ++ List.replicate (whole.toNat - digits.length) '0' ++
      (if layout.pointZero then ['.', '0'] else [])
  else
    digits.take whole.toNat ++ '.' :: digits.drop whole.toNat

/-- Writes digits with one of them before the point and a signed exponent. -/
def scientific (digits : List Char) (leading : Int) : List Char :=
  let mantissa :=
    match digits with
    | [] => []
    | [single] => [single]
    | first :: rest => first :: '.' :: rest
  let sign := if leading < 0 then '-' else '+'
  mantissa ++ 'e' :: sign :: digitChars leading.natAbs

/-- Whether the leading digit's exponent calls for positional notation. -/
def Layout.isPlain (layout : Layout) (leading : Int) : Bool :=
  layout.plainFrom.all (· ≤ leading) && layout.plainBelow.all (leading < ·)

/-- Writes a decimal. -/
def Layout.scaled (layout : Layout) (decimal : Scaled) : List Char :=
  if decimal.digits = 0 then
    if layout.pointZero then ['0', '.', '0'] else ['0']
  else
    let digits := digitChars decimal.digits
    let whole := (digits.length : Int) + decimal.exponent
    if layout.isPlain (whole - 1) then positional layout digits whole
    else scientific digits (whole - 1)

/-- Writes a finite double-precision value. -/
def Layout.float (layout : Layout) (value : Float) : List Char :=
  let magnitude := layout.scaled ((Binary.ofFloat value).shortest layout.tie)
  if value.toBits >>> 63 = 1 then '-' :: magnitude else magnitude

/-- Positional notation at every magnitude, without a point for integral
values. -/
def plainLayout : Layout where
  plainFrom := none
  plainBelow := none
  pointZero := false
  tie := .upward

end Decimal
end WorkflowEngine
