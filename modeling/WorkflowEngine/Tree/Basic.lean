import WorkflowEngine.Json.Basic

/-!
# Document trees

A document as it was written, before it is known what it describes.  A JSON
document fixes the kind of every value; a YAML document leaves the kind of a
scalar to whatever reads it.  Both keep their entries in written order and keep
repeated keys, so that readers can decide what a repetition means.
-/

namespace WorkflowEngine

/-- How an untyped scalar was written. -/
inductive ScalarStyle where
  /-- Without any marks, so that its content may stand for another kind. -/
  | plain
  /-- As a literal block. -/
  | literal
  /-- Between quotes, or as a folded block. -/
  | quoted
deriving Repr, DecidableEq, Inhabited

/-- A document tree. -/
inductive Tree where
  | null
  | bool (value : Bool)
  | number (value : Number)
  | text (value : String)
  | array (items : List Tree)
  | object (entries : List (String × Tree))
  /-- A scalar whose kind is open. -/
  | scalar (tag : Option String) (style : ScalarStyle) (content : String)
  /-- A list of an untyped document. -/
  | sequence (tag : Option String) (items : List Tree)
  /-- A map of an untyped document; a key that is no scalar is absent. -/
  | mapping (tag : Option String) (entries : List (Option String × Tree))
  /-- A part that cannot be read, nested or repeated beyond the limits. -/
  | broken
deriving Repr, Inhabited

namespace Tree

mutual

/-- The tree of a value. -/
def ofJson : Json → Tree
  | .null => .null
  | .bool value => .bool value
  | .number value => .number value
  | .text value => .text value
  | .array items => .array (ofItems items)
  | .object entries => .object (ofEntries entries)

/-- The trees of the items of an array. -/
def ofItems : List Json → List Tree
  | [] => []
  | item :: rest => ofJson item :: ofItems rest

/-- The trees of the entries of an object. -/
def ofEntries : List (String × Json) → List (String × Tree)
  | [] => []
  | (key, value) :: rest => (key, ofJson value) :: ofEntries rest

end

/-- The name given by a local tag: what follows its exclamation mark, or the
mark itself when nothing does. -/
def localTag? : Option String → Option String
  | none => none
  | some tag =>
    match tag.toList with
    | ['!'] => some "!"
    | '!' :: name => some (String.ofList name)
    | _ => none

end Tree
end WorkflowEngine
