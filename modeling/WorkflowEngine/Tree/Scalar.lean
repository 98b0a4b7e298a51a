import WorkflowEngine.Decimal.Reading
import WorkflowEngine.Json.Basic
import WorkflowEngine.Text.Basic

/-!
# What an untyped scalar stands for

The words and digits that make a plain scalar a null, a truth value, an integer
or a floating-point number.  Whatever is none of these is a text; so are digits
behind a leading zero.
-/

namespace WorkflowEngine
namespace Scalar

/-- The words for null. -/
def isNullWord (content : String) : Bool :=
  content == "null" || content == "Null" || content == "NULL" || content == "~"

/-- The words for truth values. -/
def bool? (content : String) : Option Bool :=
  if content == "true" || content == "True" || content == "TRUE" then some true
  else if content == "false" || content == "False" || content == "FALSE" then some false
  else none

/-- The value of a digit in bases up to sixteen. -/
def digit? (base : Nat) (char : Char) : Option Nat :=
  let value? : Option Nat :=
    if '0' ≤ char ∧ char ≤ '9' then some (char.toNat - '0'.toNat)
    else if 'a' ≤ char ∧ char ≤ 'f' then some (char.toNat - 'a'.toNat + 10)
    else if 'A' ≤ char ∧ char ≤ 'F' then some (char.toNat - 'A'.toNat + 10)
    else none
  value?.filter (· < base)

/-- The number written by the digits of a base; at least one is needed. -/
def digits? (base : Nat) (digits : List Char) : Option Nat :=
  if digits.isEmpty then none
  else digits.foldlM (fun value char => (digit? base char).map (value * base + ·)) 0

/-- A sign in front of digits. -/
def startsWithSign : List Char → Bool
  | char :: _ => char == '+' || char == '-'
  | [] => false

/-- Digits with a leading zero, which are no number. -/
def isZeroPadded (content : List Char) : Bool :=
  let digits :=
    match content with
    | '+' :: rest => rest
    | '-' :: rest => rest
    | rest => rest
  match digits with
  | '0' :: rest => !rest.isEmpty && rest.all (fun char => (digit? 10 char).isSome)
  | _ => false

/-- An integer after its sign was looked at: one of the marks for another base,
or decimal digits. -/
def magnitude? (content : List Char) : Option Nat :=
  match content with
  | '0' :: 'x' :: digits => digits? 16 digits
  | '0' :: 'o' :: digits => digits? 8 digits
  | '0' :: 'b' :: digits => digits? 2 digits
  | digits => digits? 10 digits

/-- An integer of any size. -/
def integer? (content : String) : Option Int :=
  let chars := content.toList
  if isZeroPadded chars then none
  else
    match chars with
    | '+' :: digits => (magnitude? digits).map Int.ofNat
    | '-' :: digits => (magnitude? digits).map (fun value => -(Int.ofNat value))
    | digits => (magnitude? digits).map Int.ofNat

/-- A floating-point number, where the special values have names of their own
that start with a point. -/
def float? (content : String) : Option Float :=
  let chars := content.toList
  let unsigned? : Option (List Char) :=
    match chars with
    | '+' :: rest => if startsWithSign rest then none else some rest
    | rest => some rest
  unsigned?.bind fun rest =>
    let word := String.ofList rest
    if word == ".inf" || word == ".Inf" || word == ".INF" then some (1.0 / 0.0)
    else if content == "-.inf" || content == "-.Inf" || content == "-.INF" then some (-1.0 / 0.0)
    else if content == ".nan" || content == ".NaN" || content == ".NAN" then some (0.0 / 0.0)
    else (Decimal.read? rest).filter Float.isFinite

/-- The value of a plain scalar.  Integers beyond 64 bits and up to 128 bits
have none. -/
def plainJson? (content : String) : Option Json :=
  if content.isEmpty || isNullWord content then some .null
  else
    match bool? content with
    | some value => some (.bool value)
    | none => number? content
where
  /-- An integer, a floating-point number or a text. -/
  number? (content : String) : Option Json :=
    match integer? content with
    | some value =>
      if Number.inRange value then some (.ofInt value)
      else if -(Int.pow 2 127) ≤ value ∧ value < Int.pow 2 128 then none
      else some (decimalOrText content)
    | none => some (decimalOrText content)
  /-- A floating-point number or a text. -/
  decimalOrText (content : String) : Json :=
    if isZeroPadded content.toList then .text content
    else
      match float? content with
      | some value => .ofFloat value
      | none => .text content

end Scalar
end WorkflowEngine
