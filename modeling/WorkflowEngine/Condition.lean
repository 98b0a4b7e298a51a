import WorkflowEngine.Json.Printer
import WorkflowEngine.Path
import WorkflowEngine.Pattern.Parser
import WorkflowEngine.Decimal.Reading

/-!
# Conditions

Tests of a field of some data against an expected value, and the two ways in
which a list of tests is combined.  A path that leads nowhere is undefined, and
only the tests for null hold or fail on it by themselves.
-/

namespace WorkflowEngine

/-- The comparison that a condition applies. -/
inductive Operator where
  | equals
  | notEquals
  | greaterThan
  | lessThan
  | greaterEqual
  | lessEqual
  | contains
  | notContains
  | isIn
  | notIn
  | isNull
  | isNotNull
  | regexMatch
deriving Repr, DecidableEq, Inhabited

/-- What joins a condition to the one after it. -/
inductive Joiner where
  | and
  | or
deriving Repr, DecidableEq, Inhabited

/-- A test of one field. -/
structure Condition where
  field : String
  operator : Operator
  value : Json
  joiner : Option Joiner
deriving Repr, Inhabited

/-- How the tests of a list are combined. -/
inductive Semantics where
  /-- From left to right, each test joined to the result so far. -/
  | leftFold
  /-- As a disjunction of conjunctions. -/
  | precedence
deriving Repr, DecidableEq, Inhabited

/-- Why a condition has no answer. -/
inductive ConditionError where
  | emptyField
  | invalidPattern (pattern : String)
  | patternNotText (value : Json)
deriving Repr, Inhabited

/-- The message of an error. -/
def ConditionError.message : ConditionError → String
  | .emptyField => "condition field path is empty"
  | .invalidPattern pattern => 
    "invalid regex pattern '" ++ pattern ++ "': regex parse error: not a pattern"
  | .patternNotText value => "regex_match expects a string pattern, got " ++ value.toText

namespace Json

/-- A value as a number for comparisons; a text counts when it is the written
form of a number. -/
def asNumber? : Json → Option Float
  | .number value => some value.toFloat
  | .text value => Decimal.read? (Text.trimChars value.toList)
  | _ => none

/-- Equality in which only the size of two numbers counts. -/
def looselyEqual : Json → Json → Bool
  | .number first, .number second => first.toFloat == second.toFloat
  | first, second => first.equal second

/-- The order of two floating-point numbers, when they have one. -/
def compareFloats (first second : Float) : Option Ordering :=
  if first < second then some .lt
  else if first == second then some .eq
  else if second < first then some .gt
  else none

/-- The order of two values: of numbers and number texts by size, of other
texts by their characters. -/
def order? (first second : Json) : Option Ordering :=
  match first.asNumber?, second.asNumber? with
  | some first, some second => compareFloats first second
  | _, _ =>
    match first, second with
    | .text first, .text second => some (compare first second)
    | _, _ => none

/-- Whether a value contains another: a text a part of it, an array an equal
item, an object a key. -/
def holds (haystack needle : Json) : Bool :=
  match haystack with
  | .text content =>
    match needle with
    | .text part => Text.occursIn part.toList content.toList
    | .number value => Text.occursIn value.print content.toList
    | _ => false
  | .array items => items.any (fun item => item.looselyEqual needle)
  | .object entries =>
    match needle with
    | .text key => Dict.contains key entries
    | _ => false
  | _ => false

/-- The text that a pattern is matched against, for values that have one. -/
def matchText? : Json → Option String
  | .text value => some value
  | .number value => some (String.ofList value.print)
  | .bool value => some (String.ofList (boolChars value))
  | _ => none

/-- Whether a value matches a pattern. -/
def matchesPattern (value pattern : Json) : Except ConditionError Bool :=
  match pattern with
  | .text source =>
    match Pattern.parse? source with
    | some pattern =>
      match value.matchText? with
      | some content => .ok (pattern.occursIn content)
      | none => .ok false
    | none => .error (.invalidPattern source)
  | other => .error (.patternNotText other)

end Json

namespace Operator

/-- The comparison of a value that is there with the expected one. -/
def compare (operator : Operator) (actual expected : Json) : Except ConditionError Bool :=
  match operator with
  | .equals => .ok (actual.looselyEqual expected)
  | .notEquals => .ok (!actual.looselyEqual expected)
  | .greaterThan => .ok (actual.order? expected == some .gt)
  | .lessThan => .ok (actual.order? expected == some .lt)
  | .greaterEqual =>
    .ok (actual.order? expected == some .gt || actual.order? expected == some .eq)
  | .lessEqual =>
    .ok (actual.order? expected == some .lt || actual.order? expected == some .eq)
  | .contains => .ok (actual.holds expected)
  | .notContains => .ok (!actual.holds expected)
  | .isIn => .ok (expected.holds actual)
  | .notIn => .ok (!expected.holds actual)
  | .isNull => .ok actual.isNull
  | .isNotNull => .ok (!actual.isNull)
  | .regexMatch => actual.matchesPattern expected

/-- The answer for a field that leads nowhere. -/
def onUndefined : Operator → Bool
  | .isNull => true
  | _ => false

/-- Tests a field of some data. -/
def evaluate
    (operator : Operator)
    (field : String)
    (expected data : Json) : Except ConditionError Bool :=
  if Text.isBlankText field then .error .emptyField
  else
    match data.lookup (Text.trim field) with
    | none => .ok operator.onUndefined
    | some actual => operator.compare actual expected

end Operator

namespace Condition

/-- Tests some data. -/
def evaluate (data : Json) (condition : Condition) : Except ConditionError Bool :=
  condition.operator.evaluate condition.field condition.value data

/-- Whether a condition ends a conjunction. -/
def closesGroup (condition : Condition) : Bool := condition.joiner == some .or

/-- Joins the tests from left to right, starting from a result and the joiner
in front of the first one. -/
def foldLeft (data : Json) : Bool → Joiner → List Condition → Except ConditionError Bool
  | result, _, [] => .ok result
  | result, joiner, condition :: rest =>
    match condition.evaluate data with
    | .error error => .error error
    | .ok outcome =>
      let joined :=
        match joiner with
        | .and => result && outcome
        | .or => result || outcome
      foldLeft data joined (condition.joiner.getD .and) rest

/-- Evaluates a disjunction of conjunctions, given whether the conjunction that
is being read still holds.  A conjunction is left at its first false test, and
the list at the first conjunction that holds. -/
def evaluateGroups (data : Json) : Bool → List Condition → Except ConditionError Bool
  | _, [] => .ok false
  | holds, condition :: rest =>
    let outcome := if holds then condition.evaluate data else .ok false
    match outcome with
    | .error error => .error error
    | .ok holds =>
      if condition.closesGroup || rest.isEmpty then
        if holds then .ok true else evaluateGroups data true rest
      else evaluateGroups data holds rest

/-- Evaluates a list of conditions; an empty list holds. -/
def evaluateAll
    (semantics : Semantics)
    (conditions : List Condition)
    (data : Json) : Except ConditionError Bool :=
  match semantics with
  | .leftFold => foldLeft data true .and conditions
  | .precedence => if conditions.isEmpty then .ok true else evaluateGroups data true conditions

end Condition
end WorkflowEngine
