import WorkflowEngine.Decimal.Binary

/-!
# Reading decimals

`toFloat` rounds a decimal to the nearest floating-point value, and `read?`
reads the decimal texts that count as numbers: an optional sign, digits with an
optional point on either side, an optional exponent, or one of the names of the
special values in any case.
-/

namespace WorkflowEngine
namespace Decimal

/-- The floating-point value nearest to `digits * 10 ^ exponent`.  Magnitudes
far outside the range are settled before any power of ten is formed. -/
def toFloat (digits : Nat) (exponent : Int) : Float :=
  if digits = 0 then 0.0
  else
    let leading := exponent + (Nat.toDigits 10 digits).length
    if 400 < leading then 1.0 / 0.0
    else if leading < -400 then 0.0
    else Float.ofScientific digits (exponent < 0) exponent.natAbs

/-- The value of a decimal digit. -/
def digit? (char : Char) : Option Nat :=
  if '0' ≤ char ∧ char ≤ '9' then some (char.toNat - '0'.toNat) else none

/-- The number written by a list of decimal digits. -/
def ofDigits (digits : List Char) : Nat :=
  digits.foldl (fun value char => value * 10 + (char.toNat - '0'.toNat)) 0

/-- A natural number of at most 64 bits: decimal digits behind an optional plus
sign. -/
def nat64? (text : List Char) : Option Nat :=
  let digits :=
    match text with
    | '+' :: digits => digits
    | digits => digits
  if digits.isEmpty || !digits.all (fun char => (digit? char).isSome) then none
  else if ofDigits digits < Nat.pow 2 64 then some (ofDigits digits)
  else none

/-- Splits off the leading decimal digits. -/
def spanDigits (text : List Char) : List Char × List Char :=
  text.span (fun char => (digit? char).isSome)

/-- An exponent part, when the whole rest is one. -/
def exponent? : List Char → Option Int
  | [] => some 0
  | mark :: rest =>
    if mark = 'e' ∨ mark = 'E' then
      let (negative, digits) :=
        match rest with
        | '+' :: digits => (false, digits)
        | '-' :: digits => (true, digits)
        | digits => (false, digits)
      if digits.isEmpty || !digits.all (fun char => (digit? char).isSome) then none
      else
        let magnitude : Int := ofDigits digits
        some (if negative then -magnitude else magnitude)
    else none

/-- An unsigned decimal number. -/
def readUnsigned? (text : List Char) : Option Float :=
  let (whole, afterWhole) := spanDigits text
  let (fraction, afterFraction) :=
    match afterWhole with
    | '.' :: rest => spanDigits rest
    | rest => ([], rest)
  if whole.isEmpty && fraction.isEmpty then none
  else
    (exponent? afterFraction).map fun exponent =>
      toFloat (ofDigits (whole ++ fraction)) (exponent - fraction.length)

/-- Lower-cases ASCII letters. -/
def lowerAscii (text : List Char) : List Char := text.map Char.toLower

/-- The special values by name, in any case. -/
def special? (text : List Char) : Option Float :=
  match String.ofList (lowerAscii text) with
  | "inf" => some (1.0 / 0.0)
  | "infinity" => some (1.0 / 0.0)
  | "nan" => some (0.0 / 0.0)
  | _ => none

/-- Reads a number with an optional sign. -/
def read? (text : List Char) : Option Float :=
  let (negative, magnitude) :=
    match text with
    | '+' :: rest => (false, rest)
    | '-' :: rest => (true, rest)
    | rest => (false, rest)
  let value := (special? magnitude).or (readUnsigned? magnitude)
  if negative then value.map (fun magnitude => -magnitude) else value

end Decimal
end WorkflowEngine
