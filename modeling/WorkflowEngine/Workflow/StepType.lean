import WorkflowEngine.Text.Basic

/-!
# Step types

The type of a step selects the handler that performs it.  Names that are not
among the known ones stay as they are written, so that handlers for further
types can be registered.
-/

namespace WorkflowEngine

/-- The type of a step. -/
inductive StepType where
  | condition
  | delay
  | checkStock
  | createAdjustment
  | createPurchaseOrder
  | sendEmail
  | sendAlert
  | apiCall
  | dataTransform
  | dataValidation
  | parallel
  | custom (name : String)
deriving Repr, DecidableEq, Inhabited

namespace StepType

/-- The name of a type. -/
def name : StepType → String
  | .condition => "condition"
  | .delay => "delay"
  | .checkStock => "check-stock"
  | .createAdjustment => "create-adjustment"
  | .createPurchaseOrder => "create-purchase-order"
  | .sendEmail => "send-email"
  | .sendAlert => "send-alert"
  | .apiCall => "api-call"
  | .dataTransform => "data-transform"
  | .dataValidation => "data-validation"
  | .parallel => "parallel"
  | .custom name => name

/-- The types with a name of their own. -/
def known : List StepType :=
  [.condition, .delay, .checkStock, .createAdjustment, .createPurchaseOrder, .sendEmail,
   .sendAlert, .apiCall, .dataTransform, .dataValidation, .parallel]

/-- The types that act on systems outside the engine. -/
def business : List StepType :=
  [.checkStock, .createAdjustment, .createPurchaseOrder, .sendEmail, .sendAlert, .apiCall]

/-- The spelling under which a name is looked up: trimmed, in lower case and
with hyphens for underscores. -/
def spelling (name : String) : String :=
  Text.replaceChar '_' '-' (Text.lowerAscii (Text.trim name))

/-- The type with a name. -/
def ofName (name : String) : StepType :=
  (known.find? (fun type => type.name == spelling name)).getD (.custom name)

/-- Whether a type is not among the known ones. -/
def isCustom : StepType → Bool
  | .custom _ => true
  | _ => false

end StepType
end WorkflowEngine
