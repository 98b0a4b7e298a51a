import WorkflowEngine.Dict

/-!
# JSON values

The dynamic values that workflows pass around.  An integer and a floating-point
number of the same size are different values; whatever treats them alike says
so by comparing `Number.toFloat`.
-/

namespace WorkflowEngine

/-- A number of a JSON value. -/
inductive Number where
  /-- A whole number, written without a point or an exponent. -/
  | integer (value : Int)
  /-- A finite floating-point number. -/
  | decimal (value : Float)
deriving Repr, Inhabited

/-- A JSON value.  The entries of an object are kept in key order. -/
inductive Json where
  | null
  | bool (value : Bool)
  | number (value : Number)
  | text (value : String)
  | array (items : List Json)
  | object (entries : List (String × Json))
deriving Repr, Inhabited

/-- A JSON object without its braces. -/
abbrev Object := Dict Json

namespace Number

/-- The nearest floating-point number. -/
def toFloat : Number → Float
  | .integer value => Float.ofInt value
  | .decimal value => value

@[simp] theorem toFloat_integer (value : Int) : (integer value).toFloat = Float.ofInt value := rfl

@[simp] theorem toFloat_decimal (value : Float) : (decimal value).toFloat = value := rfl

/-- Equality that tells integers and floating-point numbers apart. -/
def equal : Number → Number → Bool
  | .integer first, .integer second => first == second
  | .decimal first, .decimal second => first == second
  | _, _ => false

/-- The integers that a number can hold: those of 64 bits, with or without a
sign. -/
def inRange (value : Int) : Bool := -(Int.pow 2 63) ≤ value && value < Int.pow 2 64

end Number

namespace Json

/-- An integer as a value. -/
def ofInt (value : Int) : Json := .number (.integer value)

/-- A natural number as a value. -/
def ofNat (value : Nat) : Json := .number (.integer value)

/-- A floating-point number as a value; infinities and the rest of what JSON
cannot express become `null`. -/
def ofFloat (value : Float) : Json :=
  if value.isFinite then .number (.decimal value) else .null

/-- An array of texts. -/
def ofTexts (texts : List String) : Json := .array (texts.map .text)

/-- An object from entries in any order. -/
def ofEntries (entries : List (String × Json)) : Json := .object (Dict.ofList entries)

/-- The value under a key, when the value is an object that has the key. -/
def field? (key : String) : Json → Option Json
  | .object entries => Dict.find? key entries
  | _ => none

/-- The content of a text. -/
def text? : Json → Option String
  | .text value => some value
  | _ => none

/-- The items of an array. -/
def items? : Json → Option (List Json)
  | .array items => some items
  | _ => none

/-- The entries of an object. -/
def entries? : Json → Option Object
  | .object entries => some entries
  | _ => none

/-- The content of a truth value. -/
def bool? : Json → Option Bool
  | .bool value => some value
  | _ => none

/-- A number as a floating-point number. -/
def float? : Json → Option Float
  | .number value => some value.toFloat
  | _ => none

/-- A natural number; floating-point numbers do not count. -/
def nat? : Json → Option Nat
  | .number (.integer value) => if 0 ≤ value then some value.toNat else none
  | _ => none

/-- Whether a value is `null`. -/
def isNull : Json → Bool
  | .null => true
  | _ => false

/-- Whether a value is an object. -/
def isObject : Json → Bool
  | .object _ => true
  | _ => false

mutual

/-- Structural equality of values. -/
def equal : Json → Json → Bool
  | .null, .null => true
  | .bool first, .bool second => first == second
  | .number first, .number second => first.equal second
  | .text first, .text second => first == second
  | .array first, .array second => equalItems first second
  | .object first, .object second => equalEntries first second
  | _, _ => false

/-- Equality of arrays, item by item. -/
def equalItems : List Json → List Json → Bool
  | [], [] => true
  | first :: firsts, second :: seconds => equal first second && equalItems firsts seconds
  | _, _ => false

/-- Equality of objects, entry by entry in key order. -/
def equalEntries : List (String × Json) → List (String × Json) → Bool
  | [], [] => true
  | (key, first) :: firsts, (other, second) :: seconds =>
    key == other && equal first second && equalEntries firsts seconds
  | _, _ => false

end

end Json
end WorkflowEngine
