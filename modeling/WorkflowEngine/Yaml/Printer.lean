import WorkflowEngine.Json.Printer

/-!
# Writing YAML

Values in block style, one entry or item on a line, with every text between
quotation marks.  Numbers and the other scalars look as in JSON.
-/

namespace WorkflowEngine
namespace Yaml

/-- The most characters of a key that stands before its value on one line. -/
def shortKeyLimit : Nat := 100

/-- The escape of a code point by its number. -/
def codeEscape (code : Nat) : List Char :=
  let digits := Nat.toDigits 16 code
  '\\' :: 'u' :: (List.replicate (4 - digits.length) '0' ++ digits)

/-- Whether a character may stand between quotation marks as it is. -/
def isPlainChar (char : Char) : Bool :=
  let code := char.toNat
  (0x20 ≤ code && code < 0x7F) ||
    (0xA0 ≤ code && code != 0x2028 && code != 0x2029 && code != 0xFEFF && code != 0xFFFE &&
      code != 0xFFFF)

/-- A character between quotation marks. -/
def escape (char : Char) : List Char :=
  if char = '"' || char = '\\' then ['\\', char]
  else if isPlainChar char then [char]
  else codeEscape char.toNat

/-- A text between quotation marks. -/
def quote (text : String) : List Char := '"' :: (text.toList.flatMap escape ++ ['"'])

/-- A line break and the indentation of a level. -/
def lineStart (level : Nat) : List Char := '\n' :: List.replicate (2 * level) ' '

/-- A key with the mark for its value. -/
def printKey (level : Nat) (key : String) : List Char :=
  let quoted := quote key
  if quoted.length ≤ shortKeyLimit then quoted ++ [':']
  else '?' :: ' ' :: (quoted ++ lineStart level ++ [':'])

mutual

/-- A value behind a mark, for lines at a level. -/
def printValue (level : Nat) : Json → List Char
  | .null => " null".toList
  | .bool value => ' ' :: Json.boolChars value
  | .number value => ' ' :: value.print
  | .text value => ' ' :: quote value
  | .array [] => " []".toList
  | .array (item :: items) => printItems level (item :: items)
  | .object [] => [' ', '\x7b', '\x7d']
  | .object (entry :: entries) => printEntries level (entry :: entries)

/-- Items, each on a line of its own. -/
def printItems (level : Nat) : List Json → List Char
  | [] => []
  | item :: rest =>
    lineStart level ++ '-' :: (printValue (level + 1) item ++ printItems level rest)

/-- Entries, each on a line of its own. -/
def printEntries (level : Nat) : List (String × Json) → List Char
  | [] => []
  | (key, value) :: rest =>
    lineStart level ++ printKey level key ++
      (printValue (level + 1) value ++ printEntries level rest)

end

/-- A document that holds a value. -/
def document (value : Json) : String := String.ofList ("---".toList ++ printValue 0 value ++ ['\n'])

end Yaml
end WorkflowEngine
