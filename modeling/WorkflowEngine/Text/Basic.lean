/-!
# Text

White space in the sense of Unicode, trimming, and the few searches in text
that conditions, step types and storage keys need.
-/

namespace WorkflowEngine
namespace Text

/-- The characters with the Unicode property of being white space. -/
def isBlank (char : Char) : Bool :=
  let code := char.toNat
  (9 ≤ code && code ≤ 13) || code == 0x20 || code == 0x85 || code == 0xA0 ||
    code == 0x1680 || (0x2000 ≤ code && code ≤ 0x200A) || code == 0x2028 ||
    code == 0x2029 || code == 0x202F || code == 0x205F || code == 0x3000

/-- Drops white space on both sides. -/
def trimChars (text : List Char) : List Char :=
  ((text.dropWhile isBlank).reverse.dropWhile isBlank).reverse

/-- Drops white space on both sides. -/
def trim (text : String) : String := String.ofList (trimChars text.toList)

/-- Whether a text holds nothing but white space. -/
def isBlankText (text : String) : Bool := text.toList.all isBlank

/-- Lower-cases ASCII letters and leaves every other character. -/
def lowerAscii (text : String) : String := String.ofList (text.toList.map Char.toLower)

/-- Replaces every occurrence of one character. -/
def replaceChar (old new : Char) (text : String) : String :=
  String.ofList (text.toList.map (fun char => if char = old then new else char))

/-- Whether one text occurs somewhere in another. -/
def occursIn (part : List Char) : List Char → Bool
  | [] => part.isEmpty
  | char :: rest => part.isPrefixOf (char :: rest) || occursIn part rest

/-- What stands behind a given beginning. -/
def dropPrefix? : List Char → List Char → Option (List Char)
  | [], text => some text
  | _ :: _, [] => none
  | expected :: more, char :: rest => if expected = char then dropPrefix? more rest else none

/-- Splits at every occurrence of a separator; there is always one more part
than there are separators. -/
def splitOn (separator : Char) : List Char → List (List Char)
  | [] => [[]]
  | char :: rest =>
    if char = separator then [] :: splitOn separator rest
    else
      match splitOn separator rest with
      | [] => [[char]]
      | part :: parts => (char :: part) :: parts

@[simp] theorem splitOn_nil (separator : Char) : splitOn separator [] = [[]] := rfl

/-- Splitting yields at least one part. -/
theorem splitOn_ne_nil (separator : Char) (text : List Char) : splitOn separator text ≠ [] := by
  cases text with
  | nil => simp
  | cons char rest =>
    simp only [splitOn]
    split
    · simp
    · split <;> simp

section

variable
  {test : Char → Bool}
  {whole ending : List Char}
  (all : ∀ char ∈ whole, test char = true)
  (ends : ∀ char ∈ ending.head?, test char = false)

include all ends

/-- Characters that pass a test are taken up to the first one that does not. -/
theorem takeWhile_append_of_ends : (whole ++ ending).takeWhile test = whole := by
  rw [List.takeWhile_append_of_pos all]
  cases ending with
  | nil => simp
  | cons char rest => simp [ends char rfl]

theorem dropWhile_append_of_ends : (whole ++ ending).dropWhile test = ending := by
  rw [List.dropWhile_append_of_pos all]
  cases ending with
  | nil => rfl
  | cons char rest => simp [ends char rfl]

end

end Text
end WorkflowEngine
