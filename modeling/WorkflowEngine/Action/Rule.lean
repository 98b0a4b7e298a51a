import WorkflowEngine.Action.Basic

/-!
# Validation rules

Rules for single fields of some data.  A rule either holds, is violated with a
message, or cannot be checked because of its own value.
-/

namespace WorkflowEngine

/-- What a rule asks of a field. -/
inductive RuleKind where
  | required
  | type
  | least
  | greatest
  | leastLength
  | greatestLength
  | pattern
  | oneOf
deriving Repr, DecidableEq, Inhabited

namespace RuleKind

/-- The names of the kinds in definitions. -/
def names : List (String × RuleKind) :=
  [("required", .required),
   ("type", .type),
   ("min", .least),
   ("max", .greatest),
   ("min_length", .leastLength),
   ("max_length", .greatestLength),
   ("pattern", .pattern),
   ("one_of", .oneOf)]

/-- The names of the kinds in messages. -/
def label : RuleKind → String
  | .required => "Required"
  | .type => "Type"
  | .least => "Min"
  | .greatest => "Max"
  | .leastLength => "MinLength"
  | .greatestLength => "MaxLength"
  | .pattern => "Pattern"
  | .oneOf => "OneOf"

end RuleKind

/-- A rule for one field. -/
structure Rule where
  field : String
  kind : RuleKind
  value : Json
deriving Repr, Inhabited

namespace Rule

/-- Reads a rule. -/
def read? (tree : Tree) : Option Rule := do
  let fields ← tree.fields? ["field", "rule", "value"]
  let field ← fields.required "field" Tree.text?
  let kind ← fields.required "rule" (Tree.choiceOf? RuleKind.names)
  let value ← fields.defaulted "value" .null Tree.json?
  some { field, kind, value }

/-- The name of the type of a value. -/
def typeName : Json → String
  | .null => "null"
  | .bool _ => "boolean"
  | .number _ => "number"
  | .text _ => "string"
  | .array _ => "array"
  | .object _ => "object"

/-- The length of a value that has one. -/
def lengthOf : Json → Option Nat
  | .text content => some content.length
  | .array items => some items.length
  | .object entries => some entries.length
  | _ => none

/-- Whether a value satisfies a rule; there is no answer when the rule's own
value does not fit. -/
def holds? (rule : Rule) (actual : Json) : Option Bool :=
  match rule.kind with
  | .required => some true
  | .type => rule.value.text?.map (fun name => typeName actual == name)
  | .least => rule.value.float?.map (fun limit => actual.float?.any (fun value => limit ≤ value))
  | .greatest => rule.value.float?.map (fun limit => actual.float?.any (fun value => value ≤ limit))
  | .leastLength => rule.value.nat?.map (fun limit => (lengthOf actual).any (limit ≤ ·))
  | .greatestLength => rule.value.nat?.map (fun limit => (lengthOf actual).any (· ≤ limit))
  | .pattern =>
    (rule.value.text?.bind Pattern.parse?).map (fun pattern => actual.text?.any pattern.occursIn)
  | .oneOf => rule.value.items?.map (fun items => items.any (fun item => item.equal actual))

/-- Checks a rule: gives the message of a violation, if there is one. -/
def check (rule : Rule) (data : Json) : Except ActionError (Option String) :=
  match (data.lookup rule.field).filter (fun value => !value.isNull) with
  | none =>
    .ok (if rule.kind = .required then some ("'" ++ rule.field ++ "' is required") else none)
  | some actual =>
    match rule.holds? actual with
    | some true => .ok none
    | some false =>
      .ok (some ("'" ++ rule.field ++ "' fails " ++ rule.kind.label ++ " " ++ rule.value.toText))
    | none =>
      .error (.invalidConfig
        ("rule " ++ rule.kind.label ++ " on '" ++ rule.field ++ "' has invalid value " ++
          rule.value.toText))

/-- The messages of all violated rules. -/
def violations (data : Json) : List Rule → Except ActionError (List String)
  | [] => .ok []
  | rule :: rest =>
    match rule.check data with
    | .error error => .error error
    | .ok found =>
      match violations data rest with
      | .error error => .error error
      | .ok more => .ok (found.toList ++ more)

end Rule
end WorkflowEngine
