import WorkflowEngine.Yaml.Scalar
import WorkflowEngine.Yaml.Token

/-!
# Tokens from text

Splits a YAML text into tokens.  A mapping key is recognised only by the colon
behind it, so the place of every token that may turn out to be a key is kept
until that is settled; the tokens that announce the key are then put there.
-/

namespace WorkflowEngine
namespace Yaml

/-- A token that may turn out to be a key. -/
structure KeyCandidate where
  /-- The indentation leaves no other choice. -/
  required : Bool
  /-- The number of tokens in front of the candidate. -/
  position : Nat
  line : Nat
  column : Nat
  index : Nat
deriving Repr, Inhabited

/-- The state between two tokens. -/
structure Lexer where
  cursor : Cursor
  /-- The tokens so far, the last one first. -/
  tokens : List Token
  count : Nat
  /-- The column of the innermost block; none is open at -1. -/
  indent : Int
  /-- The columns of the blocks around it. -/
  outer : List Int
  /-- The candidate of every open bracket or brace and of the block around
  them, innermost first. -/
  candidates : List (Option KeyCandidate)
  /-- A key may stand here. -/
  keyAllowed : Bool
deriving Inhabited

namespace Lexer

/-- The state at the start of a text. -/
def start (text : List Char) : Lexer where
  cursor := Cursor.start text
  tokens := []
  count := 0
  indent := -1
  outer := []
  candidates := [none]
  keyAllowed := true

/-- Whether the lexer is inside brackets or braces. -/
def inFlow (lexer : Lexer) : Bool := 1 < lexer.candidates.length

/-- Adds a token at the end. -/
def push (lexer : Lexer) (token : Token) : Lexer :=
  { lexer with tokens := token :: lexer.tokens, count := lexer.count + 1 }

/-- Puts a token behind the first `position` ones. -/
def insertAt (lexer : Lexer) (position : Nat) (token : Token) : Lexer :=
  let behind := lexer.count - position
  { lexer with
    tokens := lexer.tokens.take behind ++ token :: lexer.tokens.drop behind
    count := lexer.count + 1 }

/-- Moves on to another place. -/
def moveTo (lexer : Lexer) (cursor : Cursor) : Lexer := { lexer with cursor := cursor }

/-- Replaces the candidate of the innermost level. -/
def setCandidate (lexer : Lexer) (candidate : Option KeyCandidate) : Lexer :=
  { lexer with candidates := candidate :: lexer.candidates.tail }

/-- Gives up the candidate of the innermost level; one that is required has to
be a key. -/
def dropCandidate (lexer : Lexer) : Option Lexer :=
  match lexer.candidates.head? with
  | some (some candidate) => if candidate.required then none else some (lexer.setCandidate none)
  | _ => some lexer

/-- Notes that the next token may turn out to be a key. -/
def noteCandidate (lexer : Lexer) : Option Lexer :=
  if lexer.keyAllowed then
    lexer.dropCandidate.map fun lexer =>
      lexer.setCandidate (some
        { required := !lexer.inFlow && lexer.indent == lexer.cursor.column
          position := lexer.count
          line := lexer.cursor.line
          column := lexer.cursor.column
          index := lexer.cursor.index })
  else some lexer

/-- Whether a candidate is too far back to be a key. -/
def isStale (cursor : Cursor) (candidate : KeyCandidate) : Bool :=
  candidate.line < cursor.line || candidate.index + 1024 < cursor.index

/-- Gives up the candidates that are too far back. -/
def dropStale (lexer : Lexer) : Option Lexer :=
  let stale (candidate : Option KeyCandidate) : Bool := candidate.any (isStale lexer.cursor)
  if lexer.candidates.any (fun candidate => stale candidate && candidate.any (·.required)) then none
  else
    some
      { lexer with
        candidates := lexer.candidates.map fun candidate =>
          if stale candidate then none else candidate }

/-- Opens a block at a column, when it lies further in. -/
def openBlock (lexer : Lexer) (column : Nat) (position : Option Nat) (token : Token) : Lexer :=
  if lexer.inFlow || column ≤ lexer.indent then lexer
  else
    let opened :=
      { lexer with indent := column, outer := lexer.indent :: lexer.outer }
    match position with
    | some position => opened.insertAt position token
    | none => opened.push token

/-- Closes the blocks that lie further in than a column. -/
def closeBlocks (lexer : Lexer) (column : Int) : Nat → Lexer
  | 0 => lexer
  | fuel + 1 =>
    if lexer.inFlow || lexer.indent ≤ column then lexer
    else
      closeBlocks
        { lexer.push .blockEnd with
          indent := lexer.outer.head?.getD (-1)
          outer := lexer.outer.tail }
        column fuel

/-- Closes all blocks that lie further in than a column. -/
def closeTo (lexer : Lexer) (column : Int) : Lexer :=
  lexer.closeBlocks column (lexer.outer.length + 1)

/-- Passes white space, comments and line breaks. -/
def skipToToken : Nat → Lexer → Lexer
  | 0, lexer => lexer
  | fuel + 1, lexer =>
    let cursor := lexer.cursor
    let cursor := if cursor.column = 0 ∧ cursor.peek = some '\ufeff' then cursor.skip else cursor
    let tabs := lexer.inFlow || !lexer.keyAllowed
    let cursor := (cursor.takeWhile (fun char => char == ' ' || (tabs && char == '\t'))).2
    let cursor := if cursor.peek = some '#' then cursor.skipLine else cursor
    if cursor.peek.any isBreak then
      skipToToken fuel
        { lexer with
          cursor := cursor.readBreak.2
          keyAllowed := lexer.keyAllowed || !lexer.inFlow }
    else { lexer with cursor := cursor }

/-- Adds a token of one character. -/
def mark (lexer : Lexer) (token : Token) : Lexer := (lexer.push token).moveTo lexer.cursor.skip

/-- An opening bracket or brace. -/
def openFlow (lexer : Lexer) (token : Token) : Option Lexer :=
  lexer.noteCandidate.map fun lexer =>
    { lexer with candidates := none :: lexer.candidates, keyAllowed := true }.mark token

/-- A closing bracket or brace. -/
def closeFlow (lexer : Lexer) (token : Token) : Option Lexer :=
  lexer.dropCandidate.map fun lexer =>
    { lexer with
      candidates := if lexer.inFlow then lexer.candidates.tail else lexer.candidates
      keyAllowed := false }.mark token

/-- A comma. -/
def flowEntry (lexer : Lexer) : Option Lexer :=
  lexer.dropCandidate.map fun lexer => { lexer with keyAllowed := true }.mark .flowEntry

/-- A hyphen in front of an entry. -/
def blockEntry (lexer : Lexer) : Option Lexer :=
  if !lexer.inFlow && !lexer.keyAllowed then none
  else
    (lexer.openBlock lexer.cursor.column none .blockSequenceStart).dropCandidate.map fun lexer =>
      { lexer with keyAllowed := true }.mark .blockEntry

/-- A question mark in front of a key. -/
def explicitKey (lexer : Lexer) : Option Lexer :=
  if !lexer.inFlow && !lexer.keyAllowed then none
  else
    (lexer.openBlock lexer.cursor.column none .blockMappingStart).dropCandidate.map fun lexer =>
      { lexer with keyAllowed := !lexer.inFlow }.mark .key

/-- A colon in front of a value. -/
def valueMark (lexer : Lexer) : Option Lexer :=
  match lexer.candidates.head? with
  | some (some candidate) =>
    let lexer := lexer.insertAt candidate.position .key
    let lexer := lexer.openBlock candidate.column (some candidate.position) .blockMappingStart
    some ({ lexer.setCandidate none with keyAllowed := false }.mark .value)
  | _ =>
    if !lexer.inFlow && !lexer.keyAllowed then none
    else
      let lexer := lexer.openBlock lexer.cursor.column none .blockMappingStart
      some ({ lexer with keyAllowed := !lexer.inFlow }.mark .value)

/-- The name behind the mark of an anchor or an alias. -/
def named (lexer : Lexer) (token : String → Token) : Option Lexer := do
  let lexer ← lexer.noteCandidate
  let (name, cursor) := lexer.cursor.skip.takeWhile isNameChar
  let ends :=
    match cursor.peek with
    | none => true
    | some char => isGap (some char) || "?:,]\x7d%@".toList.contains char || char.toNat == 0x60
  if name.isEmpty || !ends then none
  else some ({ lexer.push (token (String.ofList name)) with keyAllowed := false }.moveTo cursor)

/-- The characters of a tag, besides those of names. -/
def isTagChar (verbatim : Bool) (char : Char) : Bool :=
  isNameChar char || ";/?:@&=+$.!~*'()".toList.contains char ||
    (verbatim && ",[]".toList.contains char)

/-- The bytes of a character by its first one. -/
def sequenceLength? (first : Nat) : Option Nat :=
  if first < 0x80 then some 1
  else if 0xC0 ≤ first ∧ first < 0xE0 then some 2
  else if 0xE0 ≤ first ∧ first < 0xF0 then some 3
  else if 0xF0 ≤ first ∧ first < 0xF8 then some 4
  else none

/-- One byte as a percent sign and two digits. -/
def percentByte? : List Char → Option (Nat × List Char)
  | '%' :: high :: low :: rest => do
    let high ← hexDigit? high
    let low ← hexDigit? low
    some (high * 16 + low, rest)
  | _ => none

/-- The further bytes of a character. -/
def percentMore? : Nat → Nat → List Char → Option (Nat × List Char)
  | 0, code, rest => some (code, rest)
  | count + 1, code, rest => do
    let (byte, rest) ← percentByte? rest
    if 0x80 ≤ byte ∧ byte < 0xC0 then percentMore? count (code * 64 + (byte - 0x80)) rest else none

/-- A character written by its bytes. -/
def percentChar? (text : List Char) : Option (Char × List Char) := do
  let (first, rest) ← percentByte? text
  let length ← sequenceLength? first
  let lead :=
    if length = 1 then first
    else if length = 2 then first - 0xC0
    else if length = 3 then first - 0xE0
    else first - 0xF0
  let (code, rest) ← percentMore? (length - 1) lead rest
  some (Char.ofNat code, rest)

/-- The text of a tag; bytes may be written with percent signs. -/
def tagText? (verbatim : Bool) : Nat → Cursor → Option (List Char × Cursor)
  | 0, _ => none
  | fuel + 1, cursor =>
    match cursor.peek with
    | none => some ([], cursor)
    | some '%' => do
      let (char, rest) ← percentChar? cursor.rest
      let cursor := cursor.skipMany (cursor.rest.length - rest.length)
      let (more, cursor) ← tagText? verbatim fuel cursor
      some (char :: more, cursor)
    | some char =>
      if isTagChar verbatim char then
        (tagText? verbatim fuel cursor.skip).map fun (more, cursor) => (char :: more, cursor)
      else some ([], cursor)

/-- A tag at its exclamation mark: the handle, the suffix, and the place behind
them. -/
def tagParts? (cursor : Cursor) : Option (String × String × Cursor) := do
  let fuel := cursor.rest.length + 1
  if cursor.ahead 1 = some '<' then
    let (uri, cursor) ← tagText? true fuel (cursor.skipMany 2)
    if uri.isEmpty ∨ cursor.peek ≠ some '>' then none
    else some ("", String.ofList uri, cursor.skip)
  else
    let (name, behind) := cursor.skip.takeWhile isNameChar
    if behind.peek = some '!' then
      let handle := '!' :: (name ++ ['!'])
      let (suffix, cursor) ← tagText? false fuel behind.skip
      if suffix.isEmpty then none
      else some (String.ofList handle, String.ofList suffix, cursor)
    else
      let (more, cursor) ← tagText? false fuel behind
      let suffix := name ++ more
      if suffix.isEmpty then some ("", "!", cursor)
      else some ("!", String.ofList suffix, cursor)

/-- A tag. -/
def tag (lexer : Lexer) : Option Lexer := do
  let lexer ← lexer.noteCandidate
  let (handle, suffix, cursor) ← tagParts? lexer.cursor
  if isGap cursor.peek || (lexer.inFlow && cursor.peek == some ',') then
    some ({ lexer.push (.tag handle suffix) with keyAllowed := false }.moveTo cursor)
  else none

/-- Decimal digits, at most nine of them. -/
def number? (cursor : Cursor) : Option (Nat × Cursor) :=
  let (digits, cursor) := cursor.takeWhile Char.isDigit
  if digits.isEmpty ∨ 9 < digits.length then none
  else some (digits.foldl (fun value char => value * 10 + (char.toNat - '0'.toNat)) 0, cursor)

/-- The token of a directive at its percent sign. -/
def directive? (cursor : Cursor) : Option (Token × Cursor) := do
  let (name, cursor) := cursor.skip.takeWhile isNameChar
  if name = "YAML".toList ∧ isGap cursor.peek then
    let (major, cursor) ← number? cursor.skipSpaces
    if cursor.peek ≠ some '.' then none
    else
      let (minor, cursor) ← number? cursor.skip
      some (.versionDirective major minor, cursor)
  else if name = "TAG".toList ∧ isGap cursor.peek then
    let cursor := cursor.skipSpaces
    if cursor.peek ≠ some '!' then none
    else
      let (word, behind) := cursor.skip.takeWhile isNameChar
      let closed := behind.peek = some '!'
      if !closed && !word.isEmpty then none
      else
        let handle := '!' :: (if closed then word ++ ['!'] else word)
        let cursor := if closed then behind.skip else behind
        if !cursor.peek.any isSpaceOrTab then none
        else
          let (uri, cursor) ← tagText? true (cursor.rest.length + 1) cursor.skipSpaces
          if uri.isEmpty || !isGap cursor.peek then none
          else some (.tagDirective (String.ofList handle) (String.ofList uri), cursor)
  else none

/-- A directive with the rest of its line. -/
def directive (lexer : Lexer) : Option Lexer := do
  let lexer ← (lexer.closeTo (-1)).dropCandidate
  let (token, cursor) ← directive? lexer.cursor
  let cursor := cursor.skipSpaces
  let cursor := if cursor.peek = some '#' then cursor.skipLine else cursor
  if isLineEnd cursor.peek then
    let cursor := if cursor.peek.isSome then cursor.readBreak.2 else cursor
    some ({ lexer.push token with keyAllowed := false }.moveTo cursor)
  else none

/-- The marks between documents. -/
def documentMark (lexer : Lexer) (token : Token) : Option Lexer :=
  (lexer.closeTo (-1)).dropCandidate.map fun lexer =>
    { lexer.push token with keyAllowed := false }.moveTo (lexer.cursor.skipMany 3)

/-- A block scalar. -/
def blockScalar (lexer : Lexer) (literal : Bool) : Option Lexer := do
  let lexer ← lexer.dropCandidate
  let (content, cursor) ← blockScalar? literal lexer.indent lexer.cursor
  let style := if literal then ScalarStyle.literal else .quoted
  some ({ lexer.push (.scalar style (String.ofList content)) with keyAllowed := true }.moveTo cursor)

/-- A quoted scalar. -/
def quotedScalar (lexer : Lexer) (single : Bool) : Option Lexer := do
  let lexer ← lexer.noteCandidate
  let (content, cursor) ← quotedScalar? single lexer.cursor
  some
    ({ lexer.push (.scalar .quoted (String.ofList content)) with keyAllowed := false }.moveTo cursor)

/-- A plain scalar. -/
def plainScalar (lexer : Lexer) : Option Lexer := do
  let lexer ← lexer.noteCandidate
  let scalar ← plainScalar? lexer.inFlow (lexer.indent + 1) lexer.cursor
  some
    ({ lexer.push (.scalar .plain (String.ofList scalar.content)) with
      keyAllowed := scalar.endsLine }.moveTo scalar.cursor)

/-- The characters that cannot start a plain scalar by themselves. -/
def isIndicator (char : Char) : Bool :=
  "-?:,[]\x7b\x7d#&*!|>'\"%@".toList.contains char || char.toNat == 0x60

/-- Whether a plain scalar starts with the next character. -/
def startsPlain (lexer : Lexer) (char : Char) : Bool :=
  let next := lexer.cursor.ahead 1
  (!isGap (some char) && !isIndicator char) ||
    (char == '-' && !next.any isSpaceOrTab) ||
    (!lexer.inFlow && (char == '?' || char == ':') && !isGap next)

/-- The end of the text. -/
def finish (lexer : Lexer) : Option Lexer :=
  (lexer.closeTo (-1)).dropCandidate.map (·.push .streamEnd)

/-- Adds the token that starts with the next character. -/
def token (lexer : Lexer) (char : Char) : Option Lexer :=
  let next := lexer.cursor.ahead 1
  let atStart := lexer.cursor.column == 0
  if atStart && char == '%' then lexer.directive
  else if lexer.cursor.atMarks '-' then lexer.documentMark .documentStart
  else if lexer.cursor.atMarks '.' then lexer.documentMark .documentEnd
  else if char = '[' then lexer.openFlow .flowSequenceStart
  else if char = '\x7b' then lexer.openFlow .flowMappingStart
  else if char = ']' then lexer.closeFlow .flowSequenceEnd
  else if char = '\x7d' then lexer.closeFlow .flowMappingEnd
  else if char = ',' then lexer.flowEntry
  else if char == '-' && isGap next then lexer.blockEntry
  else if char == '?' && (lexer.inFlow || isGap next) then lexer.explicitKey
  else if char == ':' && (lexer.inFlow || isGap next) then lexer.valueMark
  else if char = '*' then lexer.named .alias
  else if char = '&' then lexer.named .anchor
  else if char = '!' then lexer.tag
  else if char == '|' && !lexer.inFlow then lexer.blockScalar true
  else if char == '>' && !lexer.inFlow then lexer.blockScalar false
  else if char = '\'' then lexer.quotedScalar true
  else if char = '"' then lexer.quotedScalar false
  else if lexer.startsPlain char then lexer.plainScalar
  else none

/-- Reads tokens up to the end of the text. -/
def run : Nat → Lexer → Option Lexer
  | 0, _ => none
  | fuel + 1, lexer => do
    let lexer ← (skipToToken (lexer.cursor.rest.length + 1) lexer).dropStale
    let lexer := lexer.closeTo lexer.cursor.column
    match lexer.cursor.peek with
    | none => lexer.finish
    | some char => run fuel (← lexer.token char)

end Lexer

/-- The characters that a document may hold. -/
def isAllowed (char : Char) : Bool :=
  let code := char.toNat
  code == 0x9 || code == 0xA || code == 0xD || (0x20 ≤ code && code ≤ 0x7E) || code == 0x85 ||
    (0xA0 ≤ code && code ≤ 0xFFFD) || 0x10000 ≤ code

/-- The tokens of a text. -/
def tokens? (text : String) : Option (List Token) :=
  let chars := text.toList
  if chars.all isAllowed then
    (Lexer.run (chars.length + 2) (Lexer.start chars)).map (fun lexer => lexer.tokens.reverse)
  else none

end Yaml
end WorkflowEngine
