import WorkflowEngine.Decimal.Layout
import WorkflowEngine.Json.Basic

/-!
# Writing JSON

Two written forms: a compact one without any white space, which is also what a
program sees when it turns a value into text, and one laid out over lines with
an indentation of two.
-/

namespace WorkflowEngine

namespace Number

/-- Floating-point numbers are positional from 1e-5 up to 1e16 and always show
a point or an exponent. -/
def layout : Decimal.Layout where
  plainFrom := some (-5)
  plainBelow := some 16
  pointZero := true
  tie := .toEven

/-- The digits of an integer. -/
def integerChars (value : Int) : List Char :=
  if value < 0 then '-' :: Decimal.digitChars value.natAbs else Decimal.digitChars value.natAbs

/-- The written form of a number. -/
def print : Number → List Char
  | .integer value => integerChars value
  | .decimal value => layout.float value

end Number

namespace Json

/-- A lower-case hexadecimal digit. -/
def hexDigit (value : Nat) : Char := Nat.digitChar value

/-- The written form of one character inside a text. -/
def escape (char : Char) : List Char :=
  if char = '"' then ['\\', '"']
  else if char = '\\' then ['\\', '\\']
  else if char = '\n' then ['\\', 'n']
  else if char = '\r' then ['\\', 'r']
  else if char = '\t' then ['\\', 't']
  else if char.toNat = 8 then ['\\', 'b']
  else if char.toNat = 12 then ['\\', 'f']
  else if char.toNat < 32 then
    ['\\', 'u', '0', '0', hexDigit (char.toNat / 16), hexDigit (char.toNat % 16)]
  else [char]

/-- A text between quotes. -/
def quote (text : String) : List Char := '"' :: (text.toList.flatMap escape ++ ['"'])

/-- The word for a truth value. -/
def boolChars (value : Bool) : List Char := if value then "true".toList else "false".toList

mutual

/-- The compact form. -/
def print : Json → List Char
  | .null => "null".toList
  | .bool value => boolChars value
  | .number value => value.print
  | .text value => quote value
  | .array items => '[' :: printItems items
  | .object entries => '\x7b' :: printEntries entries

/-- The items of an array up to the closing bracket. -/
def printItems : List Json → List Char
  | [] => [']']
  | item :: rest => print item ++ printMoreItems rest

/-- Items that follow others. -/
def printMoreItems : List Json → List Char
  | [] => [']']
  | item :: rest => ',' :: (print item ++ printMoreItems rest)

/-- The entries of an object up to the closing brace. -/
def printEntries : List (String × Json) → List Char
  | [] => ['\x7d']
  | (key, value) :: rest => quote key ++ ':' :: (print value ++ printMoreEntries rest)

/-- Entries that follow others. -/
def printMoreEntries : List (String × Json) → List Char
  | [] => ['\x7d']
  | (key, value) :: rest => ',' :: (quote key ++ ':' :: (print value ++ printMoreEntries rest))

end

/-- The compact form as a text. -/
def toText (value : Json) : String := String.ofList (print value)

/-- A line break and the indentation of a level. -/
def newline (level : Nat) : List Char := '\n' :: List.replicate (2 * level) ' '

mutual

/-- The form over several lines, for a value at some level of nesting. -/
def layOut (level : Nat) : Json → List Char
  | .null => "null".toList
  | .bool value => boolChars value
  | .number value => value.print
  | .text value => quote value
  | .array [] => "[]".toList
  | .array (item :: rest) =>
    '[' :: newline (level + 1) ++ (layOut (level + 1) item ++ layOutItems level rest)
  | .object [] => ['\x7b', '\x7d']
  | .object ((key, value) :: rest) =>
    '\x7b' :: newline (level + 1) ++
      (quote key ++ ':' :: ' ' :: (layOut (level + 1) value ++ layOutEntries level rest))

/-- Items that follow others, up to the closing bracket. -/
def layOutItems (level : Nat) : List Json → List Char
  | [] => newline level ++ [']']
  | item :: rest =>
    ',' :: newline (level + 1) ++ (layOut (level + 1) item ++ layOutItems level rest)

/-- Entries that follow others, up to the closing brace. -/
def layOutEntries (level : Nat) : List (String × Json) → List Char
  | [] => newline level ++ ['\x7d']
  | (key, value) :: rest =>
    ',' :: newline (level + 1) ++
      (quote key ++ ':' :: ' ' :: (layOut (level + 1) value ++ layOutEntries level rest))

end

end Json
end WorkflowEngine
