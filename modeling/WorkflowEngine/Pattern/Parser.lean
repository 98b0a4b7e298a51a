import WorkflowEngine.Pattern.Basic
import WorkflowEngine.Text.Basic

/-!
# Reading patterns

The written form of patterns: alternatives, repetitions, groups with or without
a name, flags, escapes and bracketed classes with their set operations.  There
is no look-around and no reference back to a group.

Engines that compile such patterns accept slightly other ones.  They refuse a
pattern that is nested too deep (commonly 250 levels) or that takes too much
room once its counted repetitions are written out (commonly 10 MB), like
`(\w{1000}){1000}`.  Here neither is bounded, and a count only has to be less
than 2^32.  On the other hand the properties known to `\p` are the general
categories, the scripts and the few binary properties of `Unicode.property?`.
Others that engines know, such as `Age`, `Math`, `ID_Start`, `Word_Break` or
`Grapheme_Cluster_Break`, are refused, and script extensions count as the script
itself.
-/

namespace WorkflowEngine
namespace Pattern
namespace Parser

open Unicode (CharSet)

/-- The flags that change what the rest of a group means. -/
structure Flags where
  caseless : Bool := false
  multiLine : Bool := false
  dotAll : Bool := false
  unicode : Bool := true
  anyLineEnd : Bool := false
  /-- White space and comments are passed over. -/
  spaced : Bool := false
deriving Repr, Inhabited

/-- What is left to read, the flags in force and the names of groups so far. -/
structure State where
  rest : List Char
  flags : Flags
  names : List String
deriving Inhabited

/-- A reader of one part of a pattern. -/
abbrev Reader (α : Type) := StateT State Option α

/-- The next character, which stays. -/
def peek : Reader (Option Char) := return (← get).rest.head?

/-- Passes over white space and comments. -/
def skipSpaced : Nat → List Char → List Char
  | 0, rest => rest
  | _ + 1, [] => []
  | fuel + 1, char :: rest =>
    if Text.isBlank char then skipSpaced fuel rest
    else if char = '#' then skipSpaced fuel (rest.dropWhile (· ≠ '\n'))
    else char :: rest

/-- Passes over white space and comments where the flags say so. -/
def bumpSpace : Reader Unit := modify fun state =>
  if state.flags.spaced then { state with rest := skipSpaced (state.rest.length + 1) state.rest }
  else state

/-- Drops the next character. -/
def bump : Reader Unit := modify fun state => { state with rest := state.rest.drop 1 }

/-- Drops the next character and what may be passed over behind it. -/
def advance : Reader Unit := do bump; bumpSpace

/-- The next character, of which there has to be one. -/
def current : Reader Char := do
  match ← peek with
  | some char => return char
  | none => failure

/-- The character behind the next one. -/
def peekSecond : Reader (Option Char) := return (← get).rest.tail.head?

/-- The character behind the next one and what may be passed over. -/
def peekSpaced : Reader (Option Char) := do
  let state ← get
  let rest := state.rest.drop 1
  return (if state.flags.spaced then skipSpaced (rest.length + 1) rest else rest).head?

/-- Drops a given text when it comes next. -/
def bumpIf (text : String) : Reader Bool := do
  match Text.dropPrefix? text.toList (← get).rest with
  | some rest => modify (fun state => { state with rest := rest }); return true
  | none => return false

/-- Drops the first of some texts that comes next. -/
def bumpIfAny : List String → Reader Bool
  | [] => return false
  | text :: more => do if ← bumpIf text then return true else bumpIfAny more

/-- How many characters are left. -/
def remaining : Reader Nat := return (← get).rest.length

/-- The characters of words that consist of ASCII. -/
def asciiWord : CharSet :=
  .ranges [⟨0x30, 0x39, 1⟩, ⟨0x41, 0x5A, 1⟩, ⟨0x5F, 0x5F, 1⟩, ⟨0x61, 0x7A, 1⟩]

/-- A set widened by the other case of its members where the flags say so. -/
def withCase (flags : Flags) (set : CharSet) : CharSet :=
  if !flags.caseless then set
  else if flags.unicode then .anyCase set
  else .anyAsciiCase set

/-- The complement of a set, which without Unicode is no set of characters. -/
def negate (flags : Flags) (negated : Bool) (set : CharSet) : Reader CharSet :=
  if !negated then return set
  else if flags.unicode then return .compl set
  else failure

/-- What an escape may stand for. -/
inductive Escaped where
  | char (code : Nat)
  | set (set : CharSet)
  | look (condition : Look)

/-- The characters with a meaning of their own. -/
def isMeta (char : Char) : Bool := "\\.+*?()|[]\x7b\x7d^$#&-~".toList.contains char

/-- Whether a backslash may stand before a character without changing it. -/
def isEscapable (char : Char) : Bool :=
  isMeta char || (char.toNat < 128 && !char.isAlphanum && char != '<' && char != '>')

/-- The value of a hexadecimal digit. -/
def hexDigit? (char : Char) : Option Nat :=
  if '0' ≤ char ∧ char ≤ '9' then some (char.toNat - '0'.toNat)
  else if 'a' ≤ char ∧ char ≤ 'f' then some (char.toNat - 'a'.toNat + 10)
  else if 'A' ≤ char ∧ char ≤ 'F' then some (char.toNat - 'A'.toNat + 10)
  else none

/-- A character by number, when there is one. -/
def scalar (code : Nat) : Reader Nat :=
  if code < 0xD800 ∨ (0xDFFF < code ∧ code < 0x110000) then return code else failure

/-- Hexadecimal digits up to a closing brace. -/
def bracedHex : Nat → List Nat → Reader Nat
  | 0, _ => failure
  | fuel + 1, digits => do
    let char ← current
    if char = '\x7d' then
      advance
      if digits.isEmpty then failure
      else scalar (digits.foldl (fun value digit => value * 16 + digit) 0)
    else
      match hexDigit? char with
      | some digit => advance; bracedHex fuel (digits ++ [digit])
      | none => failure

/-- A fixed number of hexadecimal digits. -/
def fixedHex : Nat → Nat → Reader Nat
  | 0, value => scalar value
  | count + 1, value => do
    match hexDigit? (← current) with
    | some digit => advance; fixedHex count (value * 16 + digit)
    | none => failure

/-- A character by its hexadecimal number, behind the mark that gives the
count of digits. -/
def hex (count : Nat) : Reader Nat := do
  advance
  if (← current) = '\x7b' then
    advance
    bracedHex ((← remaining) + 1) []
  else
    let code ← fixedHex count 0
    if !(← get).flags.unicode && count = 2 && 127 < code then failure else return code

/-- The characters up to a closing brace, which is dropped. -/
def braced : Nat → List Char → Reader (List Char)
  | 0, _ => failure
  | fuel + 1, read => do
    let char ← current
    if char = '\x7d' then advance; return read
    else advance; braced fuel (read ++ [char])

/-- Splits at the first occurrence of a mark. -/
def splitAt? (mark : List Char) : List Char → Option (List Char × List Char)
  | [] => none
  | char :: rest =>
    match Text.dropPrefix? mark (char :: rest) with
    | some after => some ([], after)
    | none => (splitAt? mark rest).map fun parts => (char :: parts.1, parts.2)

/-- The set that the content of a property escape names, and whether it is
negated by its relation. -/
def namedSet (content : List Char) : Option (CharSet × Bool) :=
  match splitAt? ['!', '='] content with
  | some (property, value) =>
    (Unicode.propertyValue? (String.ofList property) (String.ofList value)).map (·, true)
  | none =>
    match (splitAt? [':'] content).or (splitAt? ['='] content) with
    | some (property, value) =>
      (Unicode.propertyValue? (String.ofList property) (String.ofList value)).map (·, false)
    | none => (Unicode.property? (String.ofList content)).map (·, false)

/-- A set named by a property. -/
def property (negated : Bool) : Reader CharSet := do
  advance
  let char ← current
  let content ←
    if char = '\x7b' then
      advance
      braced ((← remaining) + 1) []
    else if char = '\\' then failure
    else
      advance
      pure [char]
  let flags := (← get).flags
  if !flags.unicode then failure
  else
    match namedSet content with
    | some (set, relation) => negate flags (negated != relation) (withCase flags set)
    | none => failure

/-- The digits, white space or words of the flags in force. -/
def shorthand (char : Char) : Reader CharSet := do
  let flags := (← get).flags
  let set : CharSet :=
    match char.toLower with
    | 'd' => if flags.unicode then .ranges Unicode.decimalNumber else .between 0x30 0x39
    | 's' => if flags.unicode then Unicode.whiteSpace else .ranges [⟨0x9, 0xD, 1⟩, ⟨0x20, 0x20, 1⟩]
    | _ => if flags.unicode then Unicode.word else asciiWord
  negate flags (char.isUpper) set

/-- The word characters of the flags in force. -/
def wordSet : Reader CharSet := do
  return if (← get).flags.unicode then Unicode.word else asciiWord

/-- The named boundary behind `\b`, when a brace and a letter follow. -/
def namedBoundary : Reader (Option Look) := do
  if (← peek) = some '\x7b' then
    let start ← get
    advance
    let first ← current
    if first.isAlpha || first = '-' then
      let name ← braced ((← remaining) + 1) []
      let word ← wordSet
      match String.ofList name with
      | "start" => return some (.wordStart word)
      | "end" => return some (.wordEnd word)
      | "start-half" => return some (.wordStartHalf word)
      | "end-half" => return some (.wordEndHalf word)
      | _ => failure
    else
      set start
      return none
  else return none

/-- An escape behind its backslash. -/
def escaped : Reader Escaped := do
  bump
  let char ← current
  if char.isDigit then failure
  else if char = 'x' then return .char (← hex 2)
  else if char = 'u' then return .char (← hex 4)
  else if char = 'U' then return .char (← hex 8)
  else if char = 'p' then return .set (← property false)
  else if char = 'P' then return .set (← property true)
  else if "dswDSW".toList.contains char then
    bump
    return .set (← shorthand char)
  else
    bump
    if isEscapable char then return .char char.toNat
    else
      match char with
      | 'a' => return .char 7
      | 'f' => return .char 12
      | 't' => return .char 9
      | 'n' => return .char 10
      | 'r' => return .char 13
      | 'v' => return .char 11
      | 'A' => return .look .textStart
      | 'z' => return .look .textEnd
      | 'b' =>
        match ← namedBoundary with
        | some condition => return .look condition
        | none => return .look (.wordBoundary (← wordSet))
      | 'B' => return .look (.noWordBoundary (← wordSet))
      | '<' => return .look (.wordStart (← wordSet))
      | '>' => return .look (.wordEnd (← wordSet))
      | _ => failure

/-- One item of a class: a character that may start a range, or a set. -/
inductive ClassItem where
  | char (code : Nat)
  | set (set : CharSet)

/-- The classes of ASCII characters by name. -/
def asciiClasses : List (String × CharSet) :=
  [("alnum", .ranges [⟨0x30, 0x39, 1⟩, ⟨0x41, 0x5A, 1⟩, ⟨0x61, 0x7A, 1⟩]),
   ("alpha", .ranges [⟨0x41, 0x5A, 1⟩, ⟨0x61, 0x7A, 1⟩]),
   ("ascii", .between 0 0x7F),
   ("blank", .ranges [⟨0x9, 0x9, 1⟩, ⟨0x20, 0x20, 1⟩]),
   ("cntrl", .ranges [⟨0, 0x1F, 1⟩, ⟨0x7F, 0x7F, 1⟩]),
   ("digit", .between 0x30 0x39),
   ("graph", .between 0x21 0x7E),
   ("lower", .between 0x61 0x7A),
   ("print", .between 0x20 0x7E),
   ("punct", .ranges [⟨0x21, 0x2F, 1⟩, ⟨0x3A, 0x40, 1⟩, ⟨0x5B, 0x60, 1⟩, ⟨0x7B, 0x7E, 1⟩]),
   ("space", .ranges [⟨0x9, 0xD, 1⟩, ⟨0x20, 0x20, 1⟩]),
   ("upper", .between 0x41 0x5A),
   ("word", asciiWord),
   ("xdigit", .ranges Unicode.asciiHexDigit)]

/-- A class by name in brackets and colons, when one comes next. -/
def asciiClass : Reader (Option CharSet) := do
  match (← get).rest with
  | '[' :: ':' :: rest =>
    let (negated, body) :=
      match rest with
      | '^' :: rest => (true, rest)
      | rest => (false, rest)
    let (name, after) := body.span (· ≠ ':')
    match after, asciiClasses.lookup (String.ofList name) with
    | ':' :: ']' :: after, some set =>
      modify fun state => { state with rest := after }
      let flags := (← get).flags
      return some (← negate flags negated (withCase flags set))
    | _, _ => return none
  | _ => return none

/-- An item of a class. -/
def classItem : Reader ClassItem := do
  let char ← current
  if char = '\\' then
    match ← escaped with
    | .char code => return .char code
    | .set set => return .set set
    | .look _ => failure
  else
    bump
    return .char char.toNat

/-- An item of a class or a range between two characters. -/
def classRange : Reader CharSet := do
  let first ← classItem
  bumpSpace
  let char ← current
  let behind ← peekSpaced
  if char ≠ '-' ∨ behind = some ']' ∨ behind = some '-' then
    match first with
    | .char code => return .single code
    | .set set => return set
  else
    advance
    let _ ← current
    match first, ← classItem with
    | .char first, .char last => if first ≤ last then return .between first last else failure
    | _, _ => failure

/-- An operation between two parts of a class. -/
inductive SetOperation where
  | inter
  | diff
  | symm

/-- Applies an operation to two sets. -/
def SetOperation.apply (operation : SetOperation) (first second : CharSet) : CharSet :=
  match operation with
  | .inter => .inter first second
  | .diff => .inter first (.compl second)
  | .symm => .union (.inter first (.compl second)) (.inter second (.compl first))

/-- Joins a part of a class to what stands to its left. -/
def joinParts (flags : Flags) (left : Option (CharSet × SetOperation)) (part : CharSet) : CharSet :=
  match left with
  | none => part
  | some (first, operation) => operation.apply (withCase flags first) (withCase flags part)

/-- Hyphens at the start of a class, which stand for themselves. -/
def leadingHyphens : Nat → CharSet → Reader (CharSet × Bool)
  | 0, set => return (set, false)
  | fuel + 1, set => do
    if (← current) = '-' then
      advance
      let (set, _) ← leadingHyphens fuel (.union set (.single 0x2D))
      return (set, true)
    else return (set, false)

mutual

/-- A class at its opening bracket. -/
def charClass : Nat → Reader CharSet
  | 0 => failure
  | fuel + 1 => do
    advance
    let negated ← if (← current) = '^' then do advance; pure true else pure false
    let (set, hyphens) ← leadingHyphens ((← remaining) + 1) .empty
    let set ←
      if !hyphens && (← current) = ']' then do
        advance
        let _ ← current
        pure (CharSet.union set (.single 0x5D))
      else pure set
    let body ← classBody fuel none set
    let flags := (← get).flags
    negate flags negated (withCase flags body)

/-- The parts of a class up to its closing bracket, which is dropped. -/
def classBody : Nat → Option (CharSet × SetOperation) → CharSet → Reader CharSet
  | 0, _, _ => failure
  | fuel + 1, left, part => do
    bumpSpace
    let char ← current
    let second ← peekSecond
    let flags := (← get).flags
    if char = '[' then
      match ← asciiClass with
      | some set => classBody fuel left (.union part set)
      | none => classBody fuel left (.union part (← charClass fuel))
    else if char = ']' then
      bump
      return joinParts flags left part
    else if char = '&' ∧ second = some '&' then
      bump
      bump
      classBody fuel (some (joinParts flags left part, .inter)) .empty
    else if char = '-' ∧ second = some '-' then
      bump
      bump
      classBody fuel (some (joinParts flags left part, .diff)) .empty
    else if char = '~' ∧ second = some '~' then
      bump
      bump
      classBody fuel (some (joinParts flags left part, .symm)) .empty
    else classBody fuel left (.union part (← classRange))

end

/-- Sets one flag by its letter. -/
def Flags.change? (flags : Flags) (letter : Char) (value : Bool) : Option Flags :=
  match letter with
  | 'i' => some { flags with caseless := value }
  | 'm' => some { flags with multiLine := value }
  | 's' => some { flags with dotAll := value }
  | 'U' => some flags
  | 'u' => some { flags with unicode := value }
  | 'R' => some { flags with anyLineEnd := value }
  | 'x' => some { flags with spaced := value }
  | _ => none

/-- Flags up to the colon or the closing parenthesis, which stays.  A letter
may occur once, and a minus sign once and not last. -/
def flagLetters : Nat → Bool → Bool → List Char → Flags → Reader (Flags × List Char)
  | 0, _, _, _, _ => failure
  | fuel + 1, negated, dangling, seen, flags => do
    let char ← current
    if char = ':' ∨ char = ')' then
      if dangling then failure else return (flags, seen)
    else if char = '-' then
      if negated then failure
      else
        bump
        flagLetters fuel true true ('-' :: seen) flags
    else if seen.contains char then failure
    else
      match flags.change? char (!negated) with
      | some flags => bump; flagLetters fuel negated false (char :: seen) flags
      | none => failure

/-- Whether a character may belong to the name of a group. -/
def isNameChar (first : Bool) (char : Char) : Bool :=
  if first then char = '_' || Unicode.isAlphabetic char.toNat
  else char = '_' || char = '.' || char = '[' || char = ']' || Unicode.isAlphanumeric char.toNat

/-- The name of a group up to its closing mark.  No name occurs twice. -/
def groupName : Reader Unit := do
  let (name, after) := (← get).rest.span (· ≠ '>')
  match name, after with
  | first :: more, _ :: after =>
    let text := String.ofList name
    if isNameChar true first && more.all (isNameChar false) && !(← get).names.contains text then
      modify fun state => { state with rest := after, names := text :: state.names }
    else failure
  | _, _ => failure

/-- Decimal digits, with white space allowed around them. -/
def count : Reader (Option Nat) := do
  modify fun state => { state with rest := state.rest.dropWhile Text.isBlank }
  let digits ← takeDigits ((← remaining) + 1) []
  modify fun state => { state with rest := state.rest.dropWhile Text.isBlank }
  if digits.isEmpty then return none
  else
    let value := digits.foldl (fun value char => value * 10 + (char.toNat - '0'.toNat)) 0
    if value < Nat.pow 2 32 then return some value else failure
where
  /-- The digits themselves. -/
  takeDigits : Nat → List Char → Reader (List Char)
    | 0, read => return read
    | fuel + 1, read => do
      match ← peek with
      | some char =>
        if char.isDigit then
          advance
          takeDigits fuel (read ++ [char])
        else return read
      | none => return read

/-- The bounds of a counted repetition, behind the opening brace. -/
def bounds : Reader (Nat × Option Nat) := do
  advance
  let least ← count
  let range ←
    if (← current) = ',' then do
      advance
      let least ← least
      if (← current) = '\x7d' then pure (least, none)
      else do
        let most ← (← count)
        if least ≤ most then pure (least, some most) else failure
    else do
      let least ← least
      pure (least, some least)
  if (← current) = '\x7d' then
    advance
    if (← peek) = some '?' then bump
    return range
  else failure

/-- The bounds of a repetition given by one mark. -/
def markBounds (char : Char) : Nat × Option Nat :=
  if char = '?' then (0, some 1) else if char = '*' then (0, none) else (1, none)

/-- What a sequence is built from; flags cannot be repeated. -/
inductive Part where
  | pattern (pattern : Pattern)
  | flags

/-- The sequence of parts that were read in reverse. -/
def sequenceOf (parts : List Part) : Pattern :=
  parts.foldl
    (fun sequence part =>
      match part with
      | .pattern pattern => .seq pattern sequence
      | .flags => sequence)
    .empty

/-- Repeats the last part. -/
def repeatLast (bounds : Nat × Option Nat) : List Part → Option (List Part)
  | .pattern pattern :: parts => some (.pattern (.repeated pattern bounds.1 bounds.2) :: parts)
  | _ => none

/-- Any character but the end of a line, or any at all. -/
def dot (flags : Flags) : Reader Pattern :=
  if !flags.unicode then failure
  else if flags.dotAll then return .one (.between 0 0x10FFFF)
  else if flags.anyLineEnd then return .one (.compl (.ranges [⟨0xA, 0xA, 1⟩, ⟨0xD, 0xD, 1⟩]))
  else return .one (.compl (.single 0xA))

/-- The start of the text or of a line. -/
def caret (flags : Flags) : Look :=
  if !flags.multiLine then .textStart
  else if flags.anyLineEnd then .anyLineStart
  else .lineStart

/-- The end of the text or of a line. -/
def dollar (flags : Flags) : Look :=
  if !flags.multiLine then .textEnd
  else if flags.anyLineEnd then .anyLineEnd
  else .lineEnd

/-- A single escape, character or assertion. -/
def primitive : Reader Pattern := do
  let char ← current
  let flags := (← get).flags
  if char = '\\' then
    match ← escaped with
    | .char code => return .one (withCase flags (.single code))
    | .set set => return .one set
    | .look condition => return .look condition
  else
    bump
    if char = '.' then dot flags
    else if char = '^' then return .look (caret flags)
    else if char = '$' then return .look (dollar flags)
    else return .one (withCase flags (.single char.toNat))

mutual

/-- Alternatives up to the end of the group or of the pattern. -/
def alternatives : Nat → Reader Pattern
  | 0 => failure
  | fuel + 1 => do
    let first ← parts fuel []
    if (← peek) = some '|' then
      bump
      return .alt first (← alternatives fuel)
    else return first

/-- The parts of a sequence, collected in reverse. -/
def parts : Nat → List Part → Reader Pattern
  | 0, _ => failure
  | fuel + 1, read => do
    bumpSpace
    match ← peek with
    | none => return sequenceOf read
    | some char =>
      if char = '|' ∨ char = ')' then return sequenceOf read
      else if char = '(' then parts fuel ((← group fuel) :: read)
      else if char = '[' then
        let set ← charClass ((← remaining) + 1)
        parts fuel (.pattern (.one set) :: read)
      else if char = '?' ∨ char = '*' ∨ char = '+' then
        bump
        if (← peek) = some '?' then bump
        parts fuel (← repeatLast (markBounds char) read)
      else if char = '\x7b' then
        let bounds ← bounds
        parts fuel (← repeatLast bounds read)
      else parts fuel (.pattern (← primitive) :: read)

/-- A group at its opening parenthesis, or flags for the rest of the group
around it. -/
def group : Nat → Reader Part
  | 0 => failure
  | fuel + 1 => do
    bump
    bumpSpace
    if ← bumpIfAny ["?=", "?!", "?<=", "?<!"] then failure
    let outer := (← get).flags
    if ← bumpIfAny ["?P<", "?<"] then
      groupName
      groupBody fuel outer
    else if ← bumpIf "?" then
      let (flags, seen) ← flagLetters ((← remaining) + 1) false false [] outer
      let char ← current
      bump
      if char = ')' then
        if seen.isEmpty then failure
        modify fun state => { state with flags := flags }
        return .flags
      else
        modify fun state => { state with flags := flags }
        groupBody fuel outer
    else groupBody fuel outer

/-- The content of a group and its closing parenthesis; the flags from before
the group hold again behind it. -/
def groupBody : Nat → Flags → Reader Part
  | 0, _ => failure
  | fuel + 1, outer => do
    let body ← alternatives fuel
    if (← current) = ')' then
      bump
      modify fun state => { state with flags := outer }
      return .pattern body
    else failure

end

end Parser

/-- Reads a pattern, of any size and any depth.  Nothing that is proved of conditions and of
checks depends on which patterns are read. -/
def parse? (text : String) : Option Pattern :=
  let chars := text.toList
  match (Parser.alternatives (4 * chars.length + 8)).run ⟨chars, {}, []⟩ with
  | some (pattern, state) => if state.rest.isEmpty then some pattern else none
  | none => none

end Pattern
end WorkflowEngine
