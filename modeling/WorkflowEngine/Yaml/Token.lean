import WorkflowEngine.Tree.Basic

/-!
# Tokens of YAML

The marks that give a document its shape, written ones and those that only the
indentation shows.
-/

namespace WorkflowEngine
namespace Yaml

/-- A token. -/
inductive Token where
  | streamEnd
  | versionDirective (major minor : Nat)
  | tagDirective (handle expansion : String)
  | documentStart
  | documentEnd
  | blockSequenceStart
  | blockMappingStart
  | blockEnd
  | flowSequenceStart
  | flowSequenceEnd
  | flowMappingStart
  | flowMappingEnd
  | blockEntry
  | flowEntry
  | key
  | value
  | alias (name : String)
  | anchor (name : String)
  | tag (handle suffix : String)
  | scalar (style : ScalarStyle) (content : String)
deriving Repr, DecidableEq, Inhabited

end Yaml
end WorkflowEngine
