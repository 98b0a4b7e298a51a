import WorkflowEngine.Tree.Basic
import WorkflowEngine.Tree.Scalar

/-!
# Reading document trees

One reader for each kind of thing that a document may be asked for.  The same
readers serve both formats: a typed value has to be of the right kind, while a
scalar of open kind is taken for what is asked, when its content allows it.
-/

namespace WorkflowEngine
namespace Tree

/-- The names of the tags that fix the kind of a scalar. -/
def kindTag (kind : String) : String := "tag:yaml.org,2002:" ++ kind

/-- Whether a scalar may be read as a kind: without marks always, as a literal
block only under the tag of the kind. -/
def allows (kind : String) (tag : Option String) (style : ScalarStyle) : Bool :=
  match style with
  | .plain => true
  | .literal => tag == some (kindTag kind)
  | .quoted => false

/-- A text. -/
def text? : Tree → Option String
  | .text value => some value
  | .scalar _ _ content => some content
  | _ => none

/-- A truth value. -/
def bool? : Tree → Option Bool
  | .bool value => some value
  | .scalar tag style content => if allows "bool" tag style then Scalar.bool? content else none
  | _ => none

/-- An integer. -/
def integer? : Tree → Option Int
  | .number (.integer value) => some value
  | .scalar tag style content => if allows "int" tag style then Scalar.integer? content else none
  | _ => none

/-- An integer of 64 bits with a sign. -/
def int64? (tree : Tree) : Option Int :=
  tree.integer?.filter (fun value => -(Int.pow 2 63) ≤ value && value < Int.pow 2 63)

/-- A natural number below a limit. -/
def nat? (limit : Nat) (tree : Tree) : Option Nat :=
  (tree.integer?.filter (fun (value : Int) => 0 ≤ value && value < limit)).map Int.toNat

/-- A natural number of 32 bits. -/
def nat32? : Tree → Option Nat := nat? (Nat.pow 2 32)

/-- A natural number of 64 bits. -/
def nat64? : Tree → Option Nat := nat? (Nat.pow 2 64)

/-- A floating-point number; integers count. -/
def float? : Tree → Option Float
  | .number value => some value.toFloat
  | .scalar tag style content => if allows "float" tag style then Scalar.float? content else none
  | _ => none

/-- Something that may be left out by writing null. -/
def optional? {α : Type} (read : Tree → Option α) (tree : Tree) : Option (Option α) :=
  match tree with
  | .null => some none
  | .scalar tag .plain content =>
    if tag == some (kindTag "null") then
      if Scalar.isNullWord content then some none else none
    else if tag.isNone && (content.isEmpty || Scalar.isNullWord content) then some none
    else (read tree).map some
  | _ => (read tree).map some

/-- The items of a list.  A plain scalar without content is an empty list. -/
def items? : Tree → Option (List Tree)
  | .array items => some items
  | .sequence _ items => some items
  | .scalar _ .plain content => if content.isEmpty then some [] else none
  | _ => none

/-- A list of things of one kind. -/
def listOf? {α : Type} (read : Tree → Option α) (tree : Tree) : Option (List α) :=
  tree.items?.bind (fun items => items.mapM read)

/-- The entries of a map.  Every key has to be a text. -/
def entries? : Tree → Option (List (String × Tree))
  | .object entries => some entries
  | .mapping _ entries => entries.mapM fun entry => entry.1.map (fun key => (key, entry.2))
  | .scalar _ .plain content => if content.isEmpty then some [] else none
  | _ => none

/-- A dictionary of things of one kind. -/
def dictOf? {α : Type} (read : Tree → Option α) (tree : Tree) : Option (Dict α) :=
  tree.entries?.bind fun entries =>
    (entries.mapM fun entry => (read entry.2).map (fun value => (entry.1, value))).map Dict.ofList

/-- The value of a scalar of open kind, where a tag may fix the kind. -/
def scalarJson? (tag : Option String) (style : ScalarStyle) (content : String) : Option Json :=
  if tag == some (kindTag "bool") then (Scalar.bool? content).map .bool
  else if tag == some (kindTag "int") then
    ((Scalar.integer? content).filter Number.inRange).map .ofInt
  else if tag == some (kindTag "float") then (Scalar.float? content).map .ofFloat
  else if tag == some (kindTag "null") then
    if Scalar.isNullWord content then some .null else none
  else if (localTag? tag).isSome then none
  else if tag.isNone && style == .plain then Scalar.plainJson? content
  else some (.text content)

mutual

/-- A value of any kind. -/
def json? : Tree → Option Json
  | .null => some .null
  | .bool value => some (.bool value)
  | .number value => some (.number value)
  | .text value => some (.text value)
  | .array items => (itemsJson? items).map .array
  | .object entries => (objectJson? entries).map (fun entries => .object (Dict.ofList entries))
  | .scalar tag style content => scalarJson? tag style content
  | .sequence tag items =>
    if (localTag? tag).isSome then none else (itemsJson? items).map .array
  | .mapping tag entries =>
    if (localTag? tag).isSome then none
    else (mappingJson? entries).map (fun entries => .object (Dict.ofList entries))
  | .broken => none

/-- The values of the items of a list. -/
def itemsJson? : List Tree → Option (List Json)
  | [] => some []
  | item :: rest => do
    let item ← json? item
    let rest ← itemsJson? rest
    some (item :: rest)

/-- The values of the entries of a typed object. -/
def objectJson? : List (String × Tree) → Option (List (String × Json))
  | [] => some []
  | (key, value) :: rest => do
    let value ← json? value
    let rest ← objectJson? rest
    some ((key, value) :: rest)

/-- The values of the entries of an untyped map. -/
def mappingJson? : List (Option String × Tree) → Option (List (String × Json))
  | [] => some []
  | (key, value) :: rest => do
    let key ← key
    let value ← json? value
    let rest ← mappingJson? rest
    some ((key, value) :: rest)

end

/-- An object of values of any kind. -/
def object? (tree : Tree) : Option Object := tree.dictOf? json?

/-- The name of a choice without content: a text, an entry whose value is null,
or a local tag on nothing. -/
def choice? : Tree → Option String
  | .text name => some name
  | .object [(name, .null)] => some name
  | .scalar tag style content =>
    match localTag? tag with
    | none => some content
    | some name =>
      if style == .plain && (content.isEmpty || Scalar.isNullWord content) then some name else none
  | _ => none

/-- A choice out of a table of names. -/
def choiceOf? {α : Type} (table : List (String × α)) (tree : Tree) : Option α :=
  tree.choice?.bind (fun name => table.lookup name)

/-- The fields of a record that were given, found by name. -/
abbrev Fields := List (String × Tree)

/-- Whether no name occurs twice. -/
def distinctNames : Fields → Bool
  | [] => true
  | (name, _) :: rest => !rest.any (fun field => field.1 == name) && distinctNames rest

/-- The fields of a record with known names.  Other entries of a map are passed
over, a known name may not be repeated, and a typed array gives the fields by
position. -/
def fields? (names : List String) : Tree → Option Fields
  | .array items =>
    if items.length ≤ names.length then some (names.zip items) else none
  | tree =>
    tree.entries?.bind fun entries =>
      let known := entries.filter (fun entry => names.contains entry.1)
      if distinctNames known then some known else none

namespace Fields

/-- A field that has to be given. -/
def required {α : Type} (fields : Fields) (name : String) (read : Tree → Option α) : Option α :=
  (fields.lookup name).bind read

/-- A field that has a default. -/
def defaulted {α : Type}
    (fields : Fields)
    (name : String)
    (default : α)
    (read : Tree → Option α) : Option α :=
  match fields.lookup name with
  | none => some default
  | some tree => read tree

/-- A field that may be left out or be null. -/
def optional {α : Type}
    (fields : Fields)
    (name : String)
    (read : Tree → Option α) : Option (Option α) :=
  fields.defaulted name none (Tree.optional? read)

end Fields
end Tree

end WorkflowEngine
