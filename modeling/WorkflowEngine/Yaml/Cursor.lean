/-!
# A place in a text

What is left to read together with where it stands.  The two tests that all of
scanning rests on are whether a character breaks the line and whether it
separates words.
-/

namespace WorkflowEngine
namespace Yaml

/-- A place in a text. -/
structure Cursor where
  rest : List Char
  line : Nat
  column : Nat
  /-- The number of characters before the place. -/
  index : Nat
deriving Repr, Inhabited

/-- The next line, behind the end of which the text goes on. -/
def nextLineChar : Char := Char.ofNat 0x85

/-- Whether a character ends a line. -/
def isBreak (char : Char) : Bool :=
  char == '\n' || char == '\r' || char == nextLineChar || char.toNat == 0x2028 ||
    char.toNat == 0x2029

/-- Whether a character is a space or a tab. -/
def isSpaceOrTab (char : Char) : Bool := char == ' ' || char == '\t'

/-- Whether words end here: at white space and at the end of the text. -/
def isGap : Option Char → Bool
  | none => true
  | some char => isSpaceOrTab char || isBreak char

/-- Whether a line ends here. -/
def isLineEnd : Option Char → Bool
  | none => true
  | some char => isBreak char

/-- Whether a character may belong to the name of an anchor or a tag handle. -/
def isNameChar (char : Char) : Bool := char.isAlphanum || char == '_' || char == '-'

namespace Cursor

/-- The start of a text. -/
def start (text : List Char) : Cursor := ⟨text, 0, 0, 0⟩

/-- The next character. -/
def peek (cursor : Cursor) : Option Char := cursor.rest.head?

/-- The character some places ahead. -/
def ahead (cursor : Cursor) (distance : Nat) : Option Char := cursor.rest[distance]?

/-- Passes one character that does not end the line. -/
def skip (cursor : Cursor) : Cursor :=
  ⟨cursor.rest.tail, cursor.line, cursor.column + 1, cursor.index + 1⟩

/-- Passes a number of characters that do not end the line. -/
def skipMany (cursor : Cursor) (count : Nat) : Cursor :=
  ⟨cursor.rest.drop count, cursor.line, cursor.column + count, cursor.index + count⟩

/-- Passes the end of a line, giving the text that stands for it. -/
def readBreak (cursor : Cursor) : List Char × Cursor :=
  match cursor.rest with
  | '\r' :: '\n' :: rest => (['\n'], ⟨rest, cursor.line + 1, 0, cursor.index + 2⟩)
  | char :: rest =>
    if isBreak char then
      let kept := if char.toNat == 0x2028 || char.toNat == 0x2029 then char else '\n'
      ([kept], ⟨rest, cursor.line + 1, 0, cursor.index + 1⟩)
    else ([], cursor)
  | [] => ([], cursor)

/-- Reads characters as long as they pass a test; none of them ends a line. -/
def takeWhile (cursor : Cursor) (test : Char → Bool) : List Char × Cursor :=
  let taken := cursor.rest.takeWhile test
  (taken, cursor.skipMany taken.length)

/-- Passes spaces and tabs. -/
def skipSpaces (cursor : Cursor) : Cursor := (cursor.takeWhile isSpaceOrTab).2

/-- Passes everything up to the end of the line. -/
def skipLine (cursor : Cursor) : Cursor := (cursor.takeWhile (fun char => !isBreak char)).2

/-- Whether a line starts here with three of a mark that stand alone. -/
def atMarks (cursor : Cursor) (mark : Char) : Bool :=
  cursor.column == 0 && cursor.rest.take 3 == [mark, mark, mark] && isGap (cursor.ahead 3)

/-- Whether a line starts here that separates documents. -/
def atDocumentMark (cursor : Cursor) : Bool := cursor.atMarks '-' || cursor.atMarks '.'

end Cursor
end Yaml
end WorkflowEngine
