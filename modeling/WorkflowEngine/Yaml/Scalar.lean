import WorkflowEngine.Yaml.Cursor

/-!
# Scalars of YAML

The content of plain, quoted and block scalars.  Within plain and quoted
scalars a single line break reads as a space and further ones as breaks.
-/

namespace WorkflowEngine
namespace Yaml

/-- White space between two words of a scalar. -/
structure Gap where
  /-- The spaces of a gap within a line. -/
  spaces : List Char
  /-- Whether the gap holds a line break. -/
  broken : Bool
  /-- The first line break, unless it was escaped. -/
  first : List Char
  /-- The line breaks behind the first one. -/
  more : List Char
deriving Repr, Inhabited

namespace Gap

/-- No white space. -/
def none : Gap := ⟨[], false, [], []⟩

/-- A gap that starts with an escaped line break. -/
def escaped : Gap := ⟨[], true, [], []⟩

/-- What a gap reads as. -/
def content (gap : Gap) : List Char :=
  if !gap.broken then gap.spaces
  else if gap.first == ['\n'] then
    if gap.more.isEmpty then [' '] else gap.more
  else gap.first ++ gap.more

/-- Reads white space.  Where a line is indented less than `tabLimit`, its
indentation may hold no tab. -/
def read (tabLimit : Int) : Nat → Gap → Cursor → Option (Gap × Cursor)
  | 0, _, _ => .none
  | fuel + 1, gap, cursor =>
    match cursor.peek with
    | .none => some (gap, cursor)
    | some char =>
      if isSpaceOrTab char then
        if gap.broken then
          if cursor.column < tabLimit ∧ char = '\t' then .none
          else read tabLimit fuel gap cursor.skip
        else read tabLimit fuel { gap with spaces := gap.spaces ++ [char] } cursor.skip
      else if isBreak char then
        let (text, next) := cursor.readBreak
        if gap.broken then read tabLimit fuel { gap with more := gap.more ++ text } next
        else read tabLimit fuel ⟨[], true, text, []⟩ next
      else some (gap, cursor)

end Gap

/-- Whether a character has a meaning inside brackets and braces. -/
def isFlowMark (char : Char) : Bool :=
  char == ',' || char == '[' || char == ']' || char == '\x7b' || char == '\x7d'

/-- A word of a plain scalar; inside brackets a colon may not stand right
before a mark. -/
def plainWord (inFlow : Bool) : Nat → Cursor → Option (List Char × Cursor)
  | 0, _ => none
  | fuel + 1, cursor =>
    match cursor.peek with
    | none => some ([], cursor)
    | some char =>
      if isGap (some char) then some ([], cursor)
      else if inFlow && char == ':' &&
          ((cursor.ahead 1).any (fun next => isFlowMark next || next == '?')) then none
      else if (char == ':' && isGap (cursor.ahead 1)) || (inFlow && isFlowMark char) then
        some ([], cursor)
      else
        (plainWord inFlow fuel cursor.skip).map fun (word, cursor) => (char :: word, cursor)

/-- What was read of a plain scalar. -/
structure PlainScalar where
  content : List Char
  cursor : Cursor
  /-- Whether line breaks follow the scalar. -/
  endsLine : Bool
deriving Inhabited

/-- The words of a plain scalar behind a gap. -/
def plainWords (inFlow : Bool) (indent : Int) :
    Nat → Gap → List Char → Cursor → Option PlainScalar
  | 0, _, _, _ => none
  | fuel + 1, gap, content, cursor =>
    if cursor.atDocumentMark || cursor.peek == some '#' then
      some ⟨content, cursor, gap.broken⟩
    else
      match plainWord inFlow (cursor.rest.length + 1) cursor with
      | none => none
      | some (word, cursor) =>
        let content := if word.isEmpty then content else content ++ gap.content ++ word
        let gap := if word.isEmpty then gap else Gap.none
        if cursor.peek.isNone || !isGap cursor.peek then
          some ⟨content, cursor, gap.broken⟩
        else
          match Gap.read indent (cursor.rest.length + 1) gap cursor with
          | none => none
          | some (gap, next) =>
            if !inFlow && next.column < indent then some ⟨content, next, gap.broken⟩
            else plainWords inFlow indent fuel gap content next

/-- A plain scalar. -/
def plainScalar? (inFlow : Bool) (indent : Int) (cursor : Cursor) : Option PlainScalar :=
  plainWords inFlow indent (cursor.rest.length + 1) Gap.none [] cursor

/-- The value of a hexadecimal digit. -/
def hexDigit? (char : Char) : Option Nat :=
  if '0' ≤ char ∧ char ≤ '9' then some (char.toNat - '0'.toNat)
  else if 'a' ≤ char ∧ char ≤ 'f' then some (char.toNat - 'a'.toNat + 10)
  else if 'A' ≤ char ∧ char ≤ 'F' then some (char.toNat - 'A'.toNat + 10)
  else none

/-- A character by a fixed number of hexadecimal digits. -/
def hexChar? (count : Nat) (cursor : Cursor) : Option (List Char × Cursor) := do
  let digits := cursor.rest.take count
  if digits.length < count then none
  else
    let code ← digits.foldlM (fun value char => (hexDigit? char).map (value * 16 + ·)) 0
    if (0xD800 ≤ code ∧ code ≤ 0xDFFF) ∨ 0x10FFFF < code then none
    else some ([Char.ofNat code], cursor.skipMany count)

/-- An escape behind its backslash. -/
def escape? (cursor : Cursor) : Option (List Char × Cursor) :=
  let plain (code : Nat) : Option (List Char × Cursor) := some ([Char.ofNat code], cursor.skip)
  match cursor.peek with
  | some '0' => plain 0
  | some 'a' => plain 7
  | some 'b' => plain 8
  | some 't' => plain 9
  | some '\t' => plain 9
  | some 'n' => plain 10
  | some 'v' => plain 11
  | some 'f' => plain 12
  | some 'r' => plain 13
  | some 'e' => plain 27
  | some ' ' => plain 32
  | some '"' => plain 34
  | some '/' => plain 47
  | some '\\' => plain 92
  | some 'N' => plain 0x85
  | some '_' => plain 0xA0
  | some 'L' => plain 0x2028
  | some 'P' => plain 0x2029
  | some 'x' => hexChar? 2 cursor.skip
  | some 'u' => hexChar? 4 cursor.skip
  | some 'U' => hexChar? 8 cursor.skip
  | _ => none

/-- A word of a quoted scalar, and the gap that an escaped line break opens
behind it. -/
def quotedWord (single : Bool) : Nat → Cursor → Option (List Char × Gap × Cursor)
  | 0, _ => none
  | fuel + 1, cursor =>
    match cursor.peek with
    | none => some ([], Gap.none, cursor)
    | some char =>
      if isGap (some char) then some ([], Gap.none, cursor)
      else if single && char == '\'' && cursor.ahead 1 == some '\'' then
        (quotedWord single fuel (cursor.skipMany 2)).map fun (word, rest) => ('\'' :: word, rest)
      else if char == (if single then '\'' else '"') then some ([], Gap.none, cursor)
      else if !single && char == '\\' then
        if (cursor.ahead 1).any isBreak then some ([], Gap.escaped, cursor.skip.readBreak.2)
        else
          match escape? cursor.skip with
          | none => none
          | some (text, cursor) =>
            (quotedWord single fuel cursor).map fun (word, rest) => (text ++ word, rest)
      else (quotedWord single fuel cursor.skip).map fun (word, rest) => (char :: word, rest)

/-- The words of a quoted scalar and its closing quote. -/
def quotedWords (single : Bool) : Nat → Cursor → Option (List Char × Cursor)
  | 0, _ => none
  | fuel + 1, cursor =>
    if cursor.atDocumentMark || cursor.peek.isNone then none
    else
      match quotedWord single (cursor.rest.length + 1) cursor with
      | none => none
      | some (word, gap, cursor) =>
        if cursor.peek == some (if single then '\'' else '"') then some (word, cursor.skip)
        else
          match Gap.read 0 (cursor.rest.length + 1) gap cursor with
          | none => none
          | some (gap, cursor) =>
            (quotedWords single fuel cursor).map fun (more, cursor) =>
              (word ++ gap.content ++ more, cursor)

/-- A quoted scalar at its opening quote. -/
def quotedScalar? (single : Bool) (cursor : Cursor) : Option (List Char × Cursor) :=
  quotedWords single (cursor.rest.length + 1) cursor.skip

/-- What becomes of the line breaks at the end of a block scalar. -/
inductive Chomping where
  | strip
  | clip
  | keep
deriving Repr, DecidableEq

/-- The chomping and the indentation given behind the mark of a block scalar,
in either order. -/
def blockHeader? (cursor : Cursor) : Option (Chomping × Nat × Cursor) :=
  let chomping? (cursor : Cursor) : Option (Chomping × Cursor) :=
    match cursor.peek with
    | some '+' => some (.keep, cursor.skip)
    | some '-' => some (.strip, cursor.skip)
    | _ => none
  let digit? (cursor : Cursor) : Option (Nat × Cursor) :=
    match cursor.peek with
    | some char => if char.isDigit then some (char.toNat - '0'.toNat, cursor.skip) else none
    | none => none
  match chomping? cursor with
  | some (chomping, cursor) =>
    match digit? cursor with
    | some (0, _) => none
    | some (indent, cursor) => some (chomping, indent, cursor)
    | none => some (chomping, 0, cursor)
  | none =>
    match digit? cursor with
    | some (0, _) => none
    | some (indent, cursor) =>
      match chomping? cursor with
      | some (chomping, cursor) => some (chomping, indent, cursor)
      | none => some (.clip, indent, cursor)
    | none => some (.clip, 0, cursor)

/-- Passes empty lines and the indentation of the next one.  With no known
indentation every space counts, and the largest column reached is given. -/
def blockBreaks (indent : Nat) : Nat → Nat → List Char → Cursor → Option (List Char × Nat × Cursor)
  | 0, _, _, _ => none
  | fuel + 1, reached, breaks, cursor =>
    let spaces :=
      (cursor.rest.takeWhile (· = ' ')).length
    let count := if indent = 0 then spaces else min spaces (indent - cursor.column)
    let cursor := cursor.skipMany count
    let reached := max reached cursor.column
    if (indent = 0 ∨ cursor.column < indent) ∧ cursor.peek = some '\t' then none
    else if cursor.peek.any isBreak then
      let (text, next) := cursor.readBreak
      blockBreaks indent fuel reached (breaks ++ text) next
    else some (breaks, reached, cursor)

/-- The lines of a block scalar. -/
structure BlockLines where
  content : List Char
  /-- The line break behind the last line. -/
  lastBreak : List Char
  /-- The empty lines at the end. -/
  breaks : List Char
  cursor : Cursor
deriving Inhabited

/-- Reads the lines of a block scalar. -/
def blockLines (literal : Bool) (indent : Nat) : Nat → Bool → BlockLines → Option BlockLines
  | 0, _, _ => none
  | fuel + 1, afterBlank, lines =>
    let cursor := lines.cursor
    if cursor.column ≠ indent ∨ cursor.peek.isNone then some lines
    else
      let blank := cursor.peek.any isSpaceOrTab
      let joined :=
        if !literal && lines.lastBreak == ['\n'] && !afterBlank && !blank then
          if lines.breaks.isEmpty then [' '] else lines.breaks
        else lines.lastBreak ++ lines.breaks
      let (line, cursor) := cursor.takeWhile (fun char => !isBreak char)
      let (lastBreak, cursor) := cursor.readBreak
      match blockBreaks indent (cursor.rest.length + 1) 0 [] cursor with
      | none => none
      | some (breaks, _, cursor) =>
        blockLines literal indent fuel blank
          ⟨lines.content ++ joined ++ line, lastBreak, breaks, cursor⟩

/-- A block scalar at its mark, inside a block of some indentation. -/
def blockScalar? (literal : Bool) (outer : Int) (cursor : Cursor) :
    Option (List Char × Cursor) := do
  let (chomping, increment, cursor) ← blockHeader? cursor.skip
  let cursor := cursor.skipSpaces
  let cursor := if cursor.peek = some '#' then cursor.skipLine else cursor
  if !isLineEnd cursor.peek then none
  else
    let cursor := cursor.readBreak.2
    let given := if increment = 0 then 0 else (max outer 0).toNat + increment
    let (breaks, reached, cursor) ← blockBreaks given (cursor.rest.length + 1) 0 [] cursor
    let indent :=
      if given = 0 then max (max reached (outer + 1).toNat) 1 else given
    let lines ← blockLines literal indent (cursor.rest.length + 1) false ⟨[], [], breaks, cursor⟩
    let content := lines.content
    let content := if chomping = .strip then content else content ++ lines.lastBreak
    let content := if chomping = .keep then content ++ lines.breaks else content
    some (content, lines.cursor)

end Yaml
end WorkflowEngine
