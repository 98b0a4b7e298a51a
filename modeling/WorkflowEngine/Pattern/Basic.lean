import WorkflowEngine.Unicode.Property

/-!
# Text patterns

A pattern describes a set of texts; `Pattern.occursIn` decides whether some
part of a text belongs to it.  Matching works on sets of positions: a pattern
sends the set of positions where a match may start to the set of positions
where one may end, so no choice is ever taken back.  A set of positions is the
binary expansion of a natural number.

Only whether there is a match is told, not where.  So a repetition means the
same whether it prefers many or few rounds, and groups capture nothing.
-/

namespace WorkflowEngine

/-- A condition on a position between two characters. -/
inductive Look where
  | textStart
  | textEnd
  | lineStart
  | lineEnd
  /-- The start of a line, where lines end in a return, a line feed or both. -/
  | anyLineStart
  /-- The end of a line, where lines end in a return, a line feed or both. -/
  | anyLineEnd
  /-- A boundary of a word made up of the given characters. -/
  | wordBoundary (word : Unicode.CharSet)
  | noWordBoundary (word : Unicode.CharSet)
  | wordStart (word : Unicode.CharSet)
  | wordEnd (word : Unicode.CharSet)
  /-- No word character before the position. -/
  | wordStartHalf (word : Unicode.CharSet)
  /-- No word character behind the position. -/
  | wordEndHalf (word : Unicode.CharSet)
deriving Repr, Inhabited

/-- A pattern. -/
inductive Pattern where
  | empty
  /-- One character of a set. -/
  | one (set : Unicode.CharSet)
  | look (condition : Look)
  | seq (first second : Pattern)
  | alt (first second : Pattern)
  /-- From `least` up to `most` repetitions, or any larger number. -/
  | repeated (body : Pattern) (least : Nat) (most : Option Nat)
deriving Repr, Inhabited

namespace Look

/-- Whether an optional neighbour is a word character. -/
def isWord (word : Unicode.CharSet) : Option Char → Bool
  | some char => word.contains char.toNat
  | none => false

/-- Whether a condition holds between two neighbours; a missing one is the
edge of the text. -/
def holds (condition : Look) (before after : Option Char) : Bool :=
  match condition with
  | .textStart => before.isNone
  | .textEnd => after.isNone
  | .lineStart => before.isNone || before == some '\n'
  | .lineEnd => after.isNone || after == some '\n'
  | .anyLineStart =>
    before.isNone || before == some '\n' || (before == some '\r' && after != some '\n')
  | .anyLineEnd =>
    after.isNone || after == some '\r' || (after == some '\n' && before != some '\r')
  | .wordBoundary word => isWord word before != isWord word after
  | .noWordBoundary word => isWord word before == isWord word after
  | .wordStart word => !isWord word before && isWord word after
  | .wordEnd word => isWord word before && !isWord word after
  | .wordStartHalf word => !isWord word before
  | .wordEndHalf word => !isWord word after

end Look

namespace Pattern

/-- A set of positions in a text. -/
abbrev Positions := Nat

/-- The positions whose neighbours satisfy a test, from a position on. -/
def positionsWhere (test : Option Char → Option Char → Bool) (before : Option Char) :
    List Char → Positions
  | [] => if test before none then 1 else 0
  | char :: rest =>
    (if test before (some char) then 1 else 0) + 2 * positionsWhere test (some char) rest

/-- The positions in front of a character of a set. -/
def positionsBefore (set : Unicode.CharSet) (text : List Char) : Positions :=
  positionsWhere (fun _ after => Look.isWord set after) none text

/-- Applies a step a number of times, and no more once nothing changes. -/
def iterate (step : Positions → Positions) : Nat → Positions → Positions
  | 0, positions => positions
  | count + 1, positions =>
    let next := step positions
    if next = positions then positions else iterate step count next

/-- Collects what a step reaches, in at most a number of rounds. -/
def accumulate (step : Positions → Positions) : Nat → Positions → Positions
  | 0, positions => positions
  | count + 1, positions =>
    let next := positions ||| step positions
    if next = positions then positions else accumulate step count next

/-- The positions where a match may end, from those where it may start. -/
def ends (text : List Char) : Pattern → Positions → Positions
  | .empty, starts => starts
  | .one set, starts => (starts &&& positionsBefore set text) <<< 1
  | .look condition, starts => starts &&& positionsWhere condition.holds none text
  | .seq first second, starts => ends text second (ends text first starts)
  | .alt first second, starts => ends text first starts ||| ends text second starts
  | .repeated body least most, starts =>
    let reached := iterate (ends text body) least starts
    match most with
    | none => accumulate (ends text body) (text.length + 1) reached
    | some most => accumulate (ends text body) (most - least) reached

/-- Every position of a text. -/
def everywhere (text : List Char) : Positions := Nat.pow 2 (text.length + 1) - 1

/-- Whether a match lies anywhere in a text.  No pattern that was read is too large to
be matched. -/
def occursIn (pattern : Pattern) (text : String) : Bool :=
  ends text.toList pattern (everywhere text.toList) != 0

end Pattern
end WorkflowEngine
