import WorkflowEngine.Decimal.Reading
import WorkflowEngine.Json.Basic
import WorkflowEngine.Text.Basic

/-!
# Dotted paths

A dotted path names a place inside a value.  Reading enters objects by key and
arrays by index; writing only ever builds objects, and replaces whatever else
stands in the way.
-/

namespace WorkflowEngine
namespace Path

/-- The segments between the points of a path.  There is always at least one,
and a segment may be empty. -/
def segments (path : String) : List String :=
  (Text.splitOn '.' path.toList).map String.ofList

/-- The path with given segments. -/
def ofSegments (segments : List String) : String := ".".intercalate segments

/-- An index into an array. -/
def index? (segment : String) : Option Nat := Decimal.nat64? segment.toList

end Path

namespace Json

/-- Enters a value by one segment of a path. -/
def step? (value : Json) (segment : String) : Option Json :=
  match value with
  | .object entries => Dict.find? segment entries
  | .array items => (Path.index? segment).bind (fun index => items[index]?)
  | _ => none

@[simp] theorem step?_object (entries : Object) (segment : String) :
    step? (.object entries) segment = Dict.find? segment entries := rfl

/-- The value at a list of segments. -/
def follow : List String → Json → Option Json
  | [], value => some value
  | segment :: rest, value => (value.step? segment).bind (follow rest)

@[simp] theorem follow_nil (value : Json) : follow [] value = some value := rfl

@[simp] theorem follow_cons (segment : String) (rest : List String) (value : Json) :
    follow (segment :: rest) value = (value.step? segment).bind (follow rest) := rfl

/-- The value at a dotted path. -/
def lookup (path : String) (value : Json) : Option Json := value.follow (Path.segments path)

end Json

namespace Object

/-- The value at a list of segments below an object. -/
def follow (segments : List String) (entries : Object) : Option Json :=
  match segments with
  | [] => none
  | key :: rest => (Dict.find? key entries).bind (Json.follow rest)

/-- The value at a dotted path below an object. -/
def lookup (path : String) (entries : Object) : Option Json := follow (Path.segments path) entries

/-- The entries below a key, or none when no object stands there. -/
def below (key : String) (entries : Object) : Object :=
  match Dict.find? key entries with
  | some (.object inner) => inner
  | _ => []

/-- Writes a value at a list of segments. -/
def putAt : List String → Json → Object → Object
  | [], _, entries => entries
  | [key], value, entries => Dict.insert key value entries
  | key :: next :: rest, value, entries =>
    Dict.insert key (.object (putAt (next :: rest) value (below key entries))) entries

/-- Writes a value at a dotted path. -/
def put (path : String) (value : Json) (entries : Object) : Object :=
  putAt (Path.segments path) value entries

@[simp] theorem putAt_nil (value : Json) (entries : Object) :
    putAt [] value entries = entries := rfl

@[simp] theorem putAt_single (key : String) (value : Json) (entries : Object) :
    putAt [key] value entries = Dict.insert key value entries := rfl

@[simp] theorem putAt_cons_cons
    (key next : String) (rest : List String) (value : Json) (entries : Object) :
    putAt (key :: next :: rest) value entries =
      Dict.insert key (.object (putAt (next :: rest) value (below key entries))) entries := rfl

/-- Reading at segments below an object is reading in the object as a value. -/
theorem follow_eq (key : String) (rest : List String) (entries : Object) :
    follow (key :: rest) entries = Json.follow (key :: rest) (.object entries) := rfl

end Object
end WorkflowEngine
