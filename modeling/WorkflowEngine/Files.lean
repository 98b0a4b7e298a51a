import WorkflowEngine.Text.Basic

/-!
# Files

A tree of text files, given by the paths of its files.  A directory is there as
long as a file is in it, and writing a file makes the directories above it.
-/

namespace WorkflowEngine

/-- The names on the way to a file. -/
abbrev FilePath := List String

/-- Files with their texts; no path occurs twice. -/
abbrev Files := List (FilePath × String)

/-- What a path leads to. -/
inductive Found where
  | file (text : String)
  | directory
  | missing
  /-- The path cannot be followed, or is none. -/
  | unreachable
deriving Repr, DecidableEq, Inhabited

/-- The most bytes of a name. -/
def nameLimit : Nat := 255

namespace FilePath

/-- The path that a text writes.  The name for the directory itself does
nothing, and the name for the one above takes a name back where there is one.
A path from the top of the file system starts with the separator. -/
def ofText (text : String) : FilePath :=
  let names := (Text.splitOn '/' text.toList).map String.ofList
  let start : FilePath := if text.toList.head? = some '/' then ["/"] else []
  names.foldl
    (fun path name =>
      if name = "" || name = "." then path
      else if name = ".." && !path.isEmpty && path.getLast? != some ".." then path.dropLast
      else path ++ [name])
    start

/-- The written form of a path. -/
def text (path : FilePath) : String := "/".intercalate path

/-- Whether a name holds the character that no name may hold. -/
def isBroken (path : FilePath) : Bool :=
  path.any (fun name => name.toList.any (fun char => char.toNat = 0))

/-- Whether a name is longer than names may be. -/
def isLongName (name : String) : Bool := nameLimit < name.utf8ByteSize

/-- A path with something added to its last name. -/
def extended (path : FilePath) (ending : String) : FilePath :=
  match path.getLast? with
  | some name => path.dropLast ++ [name ++ ending]
  | none => []

end FilePath

namespace Files

/-- Whether a path leads to a directory. -/
def isDirectory (files : Files) (path : FilePath) : Bool :=
  path.isEmpty ||
    files.any (fun entry => path.isPrefixOf entry.1 && path.length < entry.1.length)

/-- Whether a file stands on the way of a path. -/
def isBlocked (files : Files) (path : FilePath) : Bool :=
  files.any (fun entry => entry.1.isPrefixOf path && entry.1.length < path.length)

/-- Whether some directory on the way is asked for a name that is too long. -/
def asksLongName (files : Files) (path : FilePath) : Bool :=
  (List.range path.length).any (fun count =>
    files.isDirectory (path.take count) && (path[count]?).any FilePath.isLongName)

/-- What a path leads to. -/
def find (files : Files) (path : FilePath) : Found :=
  if path.isBroken then .unreachable
  else
    match files.lookup path with
    | some text => .file text
    | none =>
      if files.isDirectory path then .directory
      else if files.isBlocked path || files.asksLongName path then .unreachable
      else .missing

/-- What a written path leads to.  A separator at its end calls for a
directory. -/
def findText (files : Files) (text : String) : Found :=
  if text.toList.getLast? = some '/' then .unreachable else files.find (.ofText text)

/-- Puts a text under a path, replacing any earlier one. -/
def put (files : Files) (path : FilePath) (text : String) : Files :=
  if (files.lookup path).isSome then
    files.map (fun entry => if entry.1 = path then (path, text) else entry)
  else files ++ [(path, text)]

/-- Writes a file by way of a temporary file beside it; not every path can be
written. -/
def write? (files : Files) (path : FilePath) (text : String) : Option Files :=
  if path.isBroken || (path.extended ".tmp").any FilePath.isLongName ||
      files.isBlocked path || files.isDirectory path then none
  else some (files.put path text)

end Files
end WorkflowEngine
