import WorkflowEngine.Unicode.Property

/-!
# Quoted text

The form of text in listings: between quotation marks, with everything that
could not be seen or would merge with a mark written as an escape.
-/

namespace WorkflowEngine
namespace Text

/-- The escape of a code point by its number. -/
def codeEscape (code : Nat) : List Char :=
  "\\u\x7b".toList ++ Nat.toDigits 16 code ++ ['\x7d']

/-- A character between quotation marks. -/
def quotedChar (char : Char) : List Char :=
  if char = '"' || char = '\\' then ['\\', char]
  else if char = '\n' then ['\\', 'n']
  else if char = '\t' then ['\\', 't']
  else if char = '\r' then ['\\', 'r']
  else if char.toNat = 0 then ['\\', '0']
  else if Unicode.isGraphemeExtend char.toNat || !Unicode.isPrintable char.toNat then
    codeEscape char.toNat
  else [char]

/-- A text between quotation marks. -/
def quoted (text : String) : String :=
  "\"" ++ String.ofList (text.toList.flatMap quotedChar) ++ "\""

end Text
end WorkflowEngine
