import WorkflowEngine.Json.Basic
import WorkflowEngine.Tree.Basic

/-!
# Reading JSON

A reader for JSON documents of at most 127 levels of nesting.  Integers of 64
bits stay integers; longer ones and all numbers with a point or an exponent
become floating-point numbers, from their leading digits and one scaling by a
power of ten.
-/

namespace WorkflowEngine
namespace Json
namespace Reader

/-- The white space of JSON. -/
def isSpace (char : Char) : Bool :=
  char == ' ' || char == '\n' || char == '\t' || char == '\r'

/-- Skips white space. -/
def skipSpace (input : List Char) : List Char := input.dropWhile isSpace

/-- The value of a decimal digit. -/
def digit? (char : Char) : Option Nat :=
  if '0' ≤ char ∧ char ≤ '9' then some (char.toNat - '0'.toNat) else none

/-- The value of a hexadecimal digit of either case. -/
def hexDigit? (char : Char) : Option Nat :=
  if '0' ≤ char ∧ char ≤ '9' then some (char.toNat - '0'.toNat)
  else if 'a' ≤ char ∧ char ≤ 'f' then some (char.toNat - 'a'.toNat + 10)
  else if 'A' ≤ char ∧ char ≤ 'F' then some (char.toNat - 'A'.toNat + 10)
  else none

/-- The code unit written by four hexadecimal digits. -/
def codeUnit? : List Char → Option (Nat × List Char)
  | a :: b :: c :: d :: rest => do
    let a ← hexDigit? a
    let b ← hexDigit? b
    let c ← hexDigit? c
    let d ← hexDigit? d
    some (((a * 16 + b) * 16 + c) * 16 + d, rest)
  | _ => none

/-- A character given by code units, where the high half of a pair calls for
the low half. -/
def escapedChar? (input : List Char) : Option (Char × List Char) := do
  let (unit, rest) ← codeUnit? input
  if 0xDC00 ≤ unit ∧ unit ≤ 0xDFFF then none
  else if 0xD800 ≤ unit ∧ unit ≤ 0xDBFF then
    match rest with
    | '\\' :: 'u' :: more => do
      let (low, rest) ← codeUnit? more
      if 0xDC00 ≤ low ∧ low ≤ 0xDFFF then
        some (Char.ofNat (0x10000 + (unit - 0xD800) * 0x400 + (low - 0xDC00)), rest)
      else none
    | _ => none
  else some (Char.ofNat unit, rest)

/-- The characters of a text up to its closing quote. -/
def textBody? : Nat → List Char → Option (List Char × List Char)
  | 0, _ => none
  | fuel + 1, input =>
    match input with
    | [] => none
    | '"' :: rest => some ([], rest)
    | '\\' :: mark :: rest => do
      let (char, rest) ←
        match mark with
        | '"' => some ('"', rest)
        | '\\' => some ('\\', rest)
        | '/' => some ('/', rest)
        | 'b' => some (Char.ofNat 8, rest)
        | 'f' => some (Char.ofNat 12, rest)
        | 'n' => some ('\n', rest)
        | 'r' => some ('\r', rest)
        | 't' => some ('\t', rest)
        | 'u' => escapedChar? rest
        | _ => none
      let (more, rest) ← textBody? fuel rest
      some (char :: more, rest)
    | char :: rest =>
      if char = '\\' ∨ char.toNat < 32 then none
      else do
        let (more, rest) ← textBody? fuel rest
        some (char :: more, rest)

/-- A text behind its opening quote. -/
def text? (input : List Char) : Option (String × List Char) :=
  (textBody? (input.length + 1) input).map fun (chars, rest) => (String.ofList chars, rest)

/-- The largest integer that digits may accumulate to. -/
def digitLimit : Nat := Nat.pow 2 64

/-- Reads digits as long as the number they form stays below the limit. -/
def accumulate (value count : Nat) : List Char → Nat × Nat × List Char
  | [] => (value, count, [])
  | char :: rest =>
    match digit? char with
    | none => (value, count, char :: rest)
    | some digit =>
      if value * 10 + digit < digitLimit then accumulate (value * 10 + digit) (count + 1) rest
      else (value, count, char :: rest)

/-- Skips digits, counting them. -/
def countDigits (input : List Char) : Nat × List Char :=
  let (digits, rest) := input.span (fun char => (digit? char).isSome)
  (digits.length, rest)

/-- Whether a digit comes next. -/
def startsWithDigit : List Char → Bool
  | [] => false
  | char :: _ => (digit? char).isSome

/-- Scales a floating-point number by a power of ten: one multiplication or
division when the power is itself a floating-point number, divisions by the
largest such power first otherwise. -/
def scale : Nat → Float → Int → Option Float
  | 0, _, _ => none
  | fuel + 1, value, exponent =>
    if exponent.natAbs ≤ 308 then
      let power := Float.ofScientific 1 false exponent.natAbs
      if 0 ≤ exponent then
        let scaled := value * power
        if scaled.isInf then none else some scaled
      else some (value / power)
    else if value == 0.0 then some value
    else if 0 ≤ exponent then none
    else scale fuel (value / 1e308) (exponent + 308)

/-- The number with a sign, leading digits and a power of ten. -/
def decimal? (negative : Bool) (digits : Nat) (exponent : Int) : Option Number := do
  let value ← scale (exponent.natAbs / 308 + 2) (Float.ofNat digits) exponent
  some (.decimal (if negative then -value else value))

/-- The largest exponent that is taken into account. -/
def exponentLimit : Nat := Nat.pow 2 31

/-- The exponent behind its mark, added to one that is already known. -/
def exponent? (negative : Bool) (digits : Nat) (known : Int) (input : List Char) :
    Option (Number × List Char) :=
  let (down, body) :=
    match input with
    | '+' :: rest => (false, rest)
    | '-' :: rest => (true, rest)
    | rest => (false, rest)
  let (written, rest) := body.span (fun char => (digit? char).isSome)
  if written.isEmpty then none
  else
    let magnitude := written.foldl (fun value char => value * 10 + (char.toNat - '0'.toNat)) 0
    if exponentLimit ≤ magnitude then
      if digits ≠ 0 ∧ !down then none
      else some (.decimal (if negative then -0.0 else 0.0), rest)
    else
      let exponent : Int := if down then known - magnitude else known + magnitude
      (decimal? negative digits exponent).map (fun value => (value, rest))

/-- Continues behind the whole digits or the fraction with an exponent, when
one follows. -/
def finish? (negative : Bool) (digits : Nat) (exponent : Int) : List Char → Option (Number × List Char)
  | [] => (decimal? negative digits exponent).map (fun value => (value, []))
  | char :: rest =>
    if char = 'e' ∨ char = 'E' then exponent? negative digits exponent rest
    else (decimal? negative digits exponent).map (fun value => (value, char :: rest))

/-- A fraction behind its point.  Digits beyond the limit are skipped. -/
def fraction? (negative : Bool) (digits : Nat) (known : Int) (input : List Char) :
    Option (Number × List Char) :=
  if startsWithDigit input then
    let (digits, count, rest) := accumulate digits 0 input
    let (_, rest) := countDigits rest
    finish? negative digits (known - count) rest
  else none

/-- An integer without point and exponent. -/
def whole (negative : Bool) (digits : Nat) : Number :=
  if !negative then .integer digits
  else if digits = 0 ∨ Nat.pow 2 63 < digits then .decimal (-(Float.ofNat digits))
  else .integer (-(digits : Int))

/-- A number without its sign. -/
def unsigned? (negative : Bool) (input : List Char) : Option (Number × List Char) :=
  match input with
  | '0' :: rest =>
    if startsWithDigit rest then none else continue? 0 0 rest
  | _ =>
    if startsWithDigit input then
      let (digits, _, rest) := accumulate 0 0 input
      let (dropped, rest) := countDigits rest
      continue? digits dropped rest
    else none
where
  /-- What follows the whole digits. -/
  continue? (digits dropped : Nat) : List Char → Option (Number × List Char)
    | '.' :: rest => fraction? negative digits dropped rest
    | rest =>
      let ends :=
        match rest with
        | char :: _ => char != 'e' && char != 'E'
        | [] => true
      if dropped == 0 && ends then some (whole negative digits, rest)
      else finish? negative digits dropped rest

/-- A number. -/
def number? : List Char → Option (Number × List Char)
  | '-' :: rest => unsigned? true rest
  | input => unsigned? false input

mutual

/-- A value, after any white space, with `depth` levels of nesting left. -/
def value? : Nat → Nat → List Char → Option (Tree × List Char)
  | 0, _, _ => none
  | fuel + 1, depth, input =>
    match skipSpace input with
    | 'n' :: 'u' :: 'l' :: 'l' :: rest => some (.null, rest)
    | 't' :: 'r' :: 'u' :: 'e' :: rest => some (.bool true, rest)
    | 'f' :: 'a' :: 'l' :: 's' :: 'e' :: rest => some (.bool false, rest)
    | '"' :: rest => (text? rest).map fun (content, rest) => (.text content, rest)
    | '[' :: rest =>
      if depth ≤ 1 then none
      else
        match skipSpace rest with
        | ']' :: rest => some (.array [], rest)
        | rest => (items? fuel (depth - 1) rest).map fun (items, rest) => (.array items, rest)
    | '\x7b' :: rest =>
      if depth ≤ 1 then none
      else
        match skipSpace rest with
        | '\x7d' :: rest => some (.object [], rest)
        | rest =>
          (entries? fuel (depth - 1) rest).map fun (entries, rest) => (.object entries, rest)
    | rest => (number? rest).map fun (value, rest) => (.number value, rest)

/-- The items of an array, at least one. -/
def items? : Nat → Nat → List Char → Option (List Tree × List Char)
  | 0, _, _ => none
  | fuel + 1, depth, input => do
    let (item, rest) ← value? fuel depth input
    match skipSpace rest with
    | ',' :: rest => do
      let (items, rest) ← items? fuel depth rest
      some (item :: items, rest)
    | ']' :: rest => some ([item], rest)
    | _ => none

/-- The entries of an object, at least one. -/
def entries? : Nat → Nat → List Char → Option (List (String × Tree) × List Char)
  | 0, _, _ => none
  | fuel + 1, depth, input =>
    match skipSpace input with
    | '"' :: rest => do
      let (key, rest) ← text? rest
      match skipSpace rest with
      | ':' :: rest => do
        let (value, rest) ← value? fuel depth rest
        match skipSpace rest with
        | ',' :: rest => do
          let (entries, rest) ← entries? fuel depth rest
          some ((key, value) :: entries, rest)
        | '\x7d' :: rest => some ([(key, value)], rest)
        | _ => none
      | _ => none
    | _ => none

end

end Reader

/-- The levels of nesting that a document may have, plus one. -/
def depthLimit : Nat := 128

/-- Reads a whole document. -/
def readTree? (text : String) : Option Tree :=
  let chars := text.toList
  match Reader.value? (chars.length + 2) depthLimit chars with
  | some (tree, rest) => if (Reader.skipSpace rest).isEmpty then some tree else none
  | none => none

end Json
end WorkflowEngine
