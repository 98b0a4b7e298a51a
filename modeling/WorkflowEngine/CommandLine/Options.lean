import WorkflowEngine.Decimal.Reading

/-!
# Command-line options

The arguments of the command line are flags, options with a value, and at most
one path.  They may come in any order; of options given more than once the last
one counts.
-/

namespace WorkflowEngine
namespace CommandLine

/-- What the command line asks for. -/
structure Options where
  workflowPath : String := "workflow.yaml"
  inputPath : Option String := none
  settingsPath : Option String := none
  /-- Where to keep records. -/
  stateDirectory : Option String := none
  timeoutSeconds : Option Nat := none
  tenantId : Option String := none
  userId : Option String := none
  dryRun : Bool := false
  verbose : Bool := false
deriving Repr, DecidableEq, Inhabited

/-- Why arguments are refused. -/
inductive ArgumentError where
  | missingValue (option : String)
  | invalidTimeout (value : String)
  | unknownOption (argument : String)
  | unexpectedArgument (argument : String)
deriving Repr, DecidableEq, Inhabited

/-- The message of an error. -/
def ArgumentError.message : ArgumentError → String
  | .missingValue option => option ++ " requires an argument"
  | .invalidTimeout value => "Invalid timeout value: " ++ value
  | .unknownOption argument => "Unknown option: " ++ argument
  | .unexpectedArgument argument => "Unexpected argument: " ++ argument

/-- What to do. -/
inductive Choice where
  | help
  | version
  | run (options : Options)
deriving Repr, DecidableEq, Inhabited

/-- An option that takes a value. -/
inductive ValueOption where
  | input
  | settings
  | stateDirectory
  | timeout
  | tenant
  | user
deriving Repr, DecidableEq, Inhabited

namespace ValueOption

/-- The options with a value by their spelling. -/
def names : List (String × ValueOption) :=
  [("--input", .input),
   ("--config", .settings),
   ("--state-dir", .stateDirectory),
   ("--timeout", .timeout),
   ("--tenant", .tenant),
   ("--user", .user)]

/-- Sets the value of an option. -/
def set (option : ValueOption) (value : String) (options : Options) :
    Except ArgumentError Options :=
  match option with
  | .input => .ok { options with inputPath := some value }
  | .settings => .ok { options with settingsPath := some value }
  | .stateDirectory => .ok { options with stateDirectory := some value }
  | .tenant => .ok { options with tenantId := some value }
  | .user => .ok { options with userId := some value }
  | .timeout =>
    match Decimal.nat64? value.toList with
    | some seconds => .ok { options with timeoutSeconds := some seconds }
    | none => .error (.invalidTimeout value)

end ValueOption

/-- What an argument is when it stands where an option may stand. -/
inductive Argument where
  | help
  | version
  | dryRun
  | verbose
  | valued (option : ValueOption)
  | unknown
  | path
deriving Repr, DecidableEq, Inhabited

/-- The kind of an argument. -/
def Argument.ofText (text : String) : Argument :=
  if text = "--help" || text = "-h" then .help
  else if text = "--version" || text = "-V" then .version
  else if text = "--dry-run" then .dryRun
  else if text = "--verbose" || text = "-v" then .verbose
  else
    match ValueOption.names.lookup text with
    | some option => .valued option
    | none => if text.toList.head? = some '-' then .unknown else .path

/-- Reads arguments into options; a path is only taken while there is none. -/
def readArguments (pathSeen : Bool) (options : Options) :
    List String → Except ArgumentError Choice
  | [] => .ok (.run options)
  | text :: rest =>
    match Argument.ofText text with
    | .help => .ok .help
    | .version => .ok .version
    | .dryRun => readArguments pathSeen { options with dryRun := true } rest
    | .verbose => readArguments pathSeen { options with verbose := true } rest
    | .unknown => .error (.unknownOption text)
    | .path =>
      if pathSeen then .error (.unexpectedArgument text)
      else readArguments true { options with workflowPath := text } rest
    | .valued option =>
      match rest with
      | [] => .error (.missingValue text)
      | value :: rest =>
        match option.set value options with
        | .ok options => readArguments pathSeen options rest
        | .error error => .error error

/-- Reads the arguments of a command line. -/
def parse (arguments : List String) : Except ArgumentError Choice :=
  readArguments false {} arguments

end CommandLine
end WorkflowEngine
