import WorkflowEngine.Action.Basic

/-!
# Transforms

The stages of a pipeline over an array.  Every stage but the aggregation gives
an array again.
-/

namespace WorkflowEngine

/-- The direction of sorting. -/
inductive SortOrder where
  | ascending
  | descending
deriving Repr, DecidableEq, Inhabited

/-- What an aggregation computes. -/
inductive Aggregation where
  | sum
  | average
  | least
  | greatest
  | count
deriving Repr, DecidableEq, Inhabited

/-- A stage of a pipeline. -/
inductive Transform where
  | filter (field : String) (operator : Operator) (value : Json)
  | sort (field : String) (order : SortOrder)
  | pick (fields : List String)
  | aggregate (field : Option String) (function : Aggregation)
  | limit (count : Nat)
  | unique (field : Option String)
deriving Repr, Inhabited

namespace Transform

/-- A choice out of a table, where the choice may also stand in front of an
empty object. -/
def choiceOf? {α : Type} (table : List (String × α)) (tree : Tree) : Option α :=
  match tree with
  | .object [(name, .object [])] => table.lookup name
  | _ => tree.choiceOf? table

/-- Reads the fields of a stage with a given name. -/
def readStage? (name : String) (tree : Tree) : Option Transform :=
  match name with
  | "filter" => do
    let fields ← tree.fields? ["field", "operator", "value"]
    let field ← fields.required "field" Tree.text?
    let operator ← fields.required "operator" (choiceOf? Operator.names)
    let value ← fields.defaulted "value" .null Tree.json?
    some (.filter field operator value)
  | "sort" => do
    let fields ← tree.fields? ["field", "order"]
    let field ← fields.required "field" Tree.text?
    let order ← fields.defaulted "order" .ascending
      (choiceOf? [("asc", SortOrder.ascending), ("desc", .descending)])
    some (.sort field order)
  | "pick" => do
    let fields ← tree.fields? ["fields"]
    (fields.required "fields" (Tree.listOf? Tree.text?)).map .pick
  | "aggregate" => do
    let fields ← tree.fields? ["field", "function"]
    let field ← fields.optional "field" Tree.text?
    let function ← fields.required "function"
      (choiceOf?
        [("sum", Aggregation.sum), ("avg", .average), ("min", .least), ("max", .greatest),
         ("count", .count)])
    some (.aggregate field function)
  | "limit" => do
    let fields ← tree.fields? ["count"]
    (fields.required "count" Tree.nat64?).map .limit
  | "unique" => do
    let fields ← tree.fields? ["field"]
    (fields.optional "field" Tree.text?).map .unique
  | _ => none

/-- Reads a stage.  Its name stands under `op`, or first in an array. -/
def read? (tree : Tree) : Option Transform :=
  match tree with
  | .object entries =>
    match entries.lookup "op" with
    | some (.text name) =>
      readStage? name (.object (entries.filter (fun entry => entry.1 != "op")))
    | _ => none
  | .array (.text name :: rest) => readStage? name (.array rest)
  | _ => none

/-- The part of an item that a stage looks at. -/
def fieldOf (field : Option String) (item : Json) : Option Json :=
  match field with
  | some path => item.lookup path
  | none => some item

/-- The order of two keys: numbers, texts and truth values among themselves,
missing keys last, and all else equal. -/
def keyOrder : Option Json → Option Json → Ordering
  | some (.number first), some (.number second) =>
    (Json.compareFloats first.toFloat second.toFloat).getD .eq
  | some (.text first), some (.text second) => compare first second
  | some (.bool first), some (.bool second) => compare first second
  | some _, none => .lt
  | none, some _ => .gt
  | _, _ => .eq

/-- The order of two items by a field. -/
def itemOrder (field : String) (order : SortOrder) (first second : Json) : Ordering :=
  let ordering := keyOrder (first.lookup field) (second.lookup field)
  match order with
  | .ascending => ordering
  | .descending => ordering.swap

/-- Inserts an item into a list given in reverse, in front of all items at its
end that it comes before. -/
def insertBack (before : Json → Json → Bool) (item : Json) : List Json → List Json
  | [] => [item]
  | last :: rest =>
    if before item last then last :: insertBack before item rest else item :: last :: rest

/-- Sorts items by inserting one after the other from the back. -/
def sortItems (before : Json → Json → Bool) (items : List Json) : List Json :=
  (items.foldl (fun sorted item => insertBack before item sorted) []).reverse

/-- The items of which a test holds. -/
def filterItems
    (field : String)
    (operator : Operator)
    (value : Json) : List Json → Except ActionError (List Json)
  | [] => .ok []
  | item :: rest =>
    match operator.evaluate field value item with
    | .error error => .error (.condition error)
    | .ok holds =>
      match filterItems field operator value rest with
      | .error error => .error error
      | .ok kept => .ok (if holds then item :: kept else kept)

/-- Writes one listed path of an item into what was picked so far. -/
def pickField (item : Json) (picked : Object) (field : String) : Object :=
  match item.lookup field with
  | some value => Object.put field value picked
  | none => picked

/-- The listed paths of an item. -/
def pickItem (fields : List String) (item : Json) : Object := fields.foldl (pickField item) []

/-- The text by which items are told apart; it is empty for a missing part. -/
def uniqueKey (field : Option String) (item : Json) : String :=
  ((fieldOf field item).map Json.toText).getD ""

/-- The first item for every key that was not met before. -/
def uniqueItems (field : Option String) : List String → List Json → List Json
  | _, [] => []
  | seen, item :: rest =>
    let key := uniqueKey field item
    if seen.contains key then uniqueItems field seen rest
    else item :: uniqueItems field (key :: seen) rest

/-- The smaller of two numbers, passing over what is no number. -/
def smaller (first second : Float) : Float :=
  if first.isNaN then second else if second < first then second else first

/-- The larger of two numbers, passing over what is no number. -/
def larger (first second : Float) : Float :=
  if first.isNaN then second else if first < second then second else first

/-- The number of items that have a value. -/
def countItems (field : Option String) (items : List Json) : Nat :=
  match field with
  | some path => (items.filter (fun item => !((item.lookup path).all Json.isNull))).length
  | none => items.length

/-- Computes an aggregation over the numbers among the parts of the items. -/
def aggregateItems (field : Option String) (function : Aggregation) (items : List Json) : Json :=
  let numbers := (items.filterMap (fieldOf field)).filterMap Json.asNumber?
  let total := numbers.foldl (· + ·) (-0.0)
  match function with
  | .count => .ofNat (countItems field items)
  | .sum => if numbers.isEmpty then .ofNat 0 else .ofFloat total
  | .average =>
    if numbers.isEmpty then .null else .ofFloat (total / Float.ofNat numbers.length)
  | .least => if numbers.isEmpty then .null else .ofFloat (numbers.foldl smaller (1.0 / 0.0))
  | .greatest => if numbers.isEmpty then .null else .ofFloat (numbers.foldl larger (-1.0 / 0.0))

/-- Applies a stage to the items of an array. -/
def applyItems (transform : Transform) (items : List Json) : Except ActionError Json :=
  match transform with
  | .filter field operator value => (filterItems field operator value items).map .array
  | .sort field order =>
    .ok (.array (sortItems (fun first second => itemOrder field order first second == .lt) items))
  | .pick fields => .ok (.array (items.map (fun item => .object (pickItem fields item))))
  | .aggregate field function => .ok (aggregateItems field function items)
  | .limit count => .ok (.array (items.take count))
  | .unique field => .ok (.array (uniqueItems field [] items))

/-- Applies a stage. -/
def apply (transform : Transform) (value : Json) : Except ActionError Json :=
  match value with
  | .array items => transform.applyItems items
  | _ => .error (.invalidConfig "data-transform stages expect an array")

/-- Applies stages one after the other. -/
def applyAll : List Transform → Json → Except ActionError Json
  | [], value => .ok value
  | transform :: rest, value =>
    match transform.apply value with
    | .error error => .error error
    | .ok value => applyAll rest value

end Transform
end WorkflowEngine
