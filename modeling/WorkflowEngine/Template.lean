import WorkflowEngine.Context
import WorkflowEngine.Json.Printer

/-!
# Templates

A template is a text with placeholders of the form of a dollar sign and a path
in braces.  White space may surround the path but not interrupt it.  Values are
inserted as they are and not searched for placeholders again.
-/

namespace WorkflowEngine
namespace Template

/-- Whether a character may belong to the path of a placeholder. -/
def isPathChar (char : Char) : Bool := char != '\x7d' && !Text.isBlank char

/-- A placeholder behind its opening brace: its path and what follows it. -/
def placeholderBody? (text : List Char) : Option (List Char × List Char) :=
  let text := text.dropWhile Text.isBlank
  let path := text.takeWhile isPathChar
  let rest := (text.dropWhile isPathChar).dropWhile Text.isBlank
  match path, rest with
  | _ :: _, '\x7d' :: rest => some (path, rest)
  | _, _ => none

/-- A placeholder at the start of a text. -/
def placeholder? : List Char → Option (List Char × List Char)
  | '$' :: '\x7b' :: rest => placeholderBody? rest
  | _ => none

/-- The value that a context has for a path: in its execution data, else in its
variables, else in the caller's input. -/
def value? (context : Context) (path : String) : Option Json :=
  (Object.lookup path context.executionData).or
    ((Object.lookup path context.variables).or (Object.lookup path context.inputData))

/-- How a value is inserted. -/
def insertion : Json → List Char
  | .text content => content.toList
  | value => value.print

/-- Replaces the placeholders of a text, with a bound on its length. -/
def interpolateChars (context : Context) : Nat → List Char → List Char
  | 0, text => text
  | _, [] => []
  | fuel + 1, char :: rest =>
    match placeholder? (char :: rest) with
    | some (path, behind) =>
      let written := (char :: rest).take (rest.length + 1 - behind.length)
      let inserted :=
        match value? context (String.ofList path) with
        | some value => insertion value
        | none => written
      inserted ++ interpolateChars context fuel behind
    | none => char :: interpolateChars context fuel rest

/-- Replaces the placeholders of a template; one without a value stays as it is
written. -/
def interpolate (template : String) (context : Context) : String :=
  String.ofList (interpolateChars context template.toList.length template.toList)

end Template
end WorkflowEngine
