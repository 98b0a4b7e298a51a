import WorkflowEngine.Yaml.Token

/-!
# Nodes from tokens

The nodes of a document, as the grammar of YAML finds them in the tokens.
Anchors and aliases keep their names here.
-/

namespace WorkflowEngine
namespace Yaml

/-- What may stand in front of the content of a node. -/
structure Properties where
  anchor : Option String := none
  tag : Option String := none
deriving Repr, DecidableEq, Inhabited

/-- A node. -/
inductive Node where
  | scalar (properties : Properties) (style : ScalarStyle) (content : String)
  | sequence (properties : Properties) (items : List Node)
  | mapping (properties : Properties) (entries : List (Node × Node))
  | alias (name : String)
deriving Repr, Inhabited

namespace Node

/-- A node without content. -/
def empty : Node := .scalar {} .plain ""

/-- The handles of tags with what they stand for. -/
abbrev Handles := List (String × String)

/-- The full name of a tag. -/
def fullTag? (handles : Handles) (handle suffix : String) : Option String :=
  if handle.isEmpty then some suffix
  else (handles.lookup handle).map (· ++ suffix)

/-- An anchor and a tag, in either order, in front of a node. -/
def properties? (handles : Handles) : List Token → Option (Properties × List Token)
  | .anchor name :: .tag handle suffix :: rest =>
    (fullTag? handles handle suffix).map fun tag => (⟨some name, some tag⟩, rest)
  | .tag handle suffix :: .anchor name :: rest =>
    (fullTag? handles handle suffix).map fun tag => (⟨some name, some tag⟩, rest)
  | .anchor name :: rest => some (⟨some name, none⟩, rest)
  | .tag handle suffix :: rest =>
    (fullTag? handles handle suffix).map fun tag => (⟨none, some tag⟩, rest)
  | rest => some ({}, rest)

/-- The tag of a scalar; an exclamation mark alone is no tag. -/
def scalarProperties (properties : Properties) : Properties :=
  { properties with tag := properties.tag.filter (· != "!") }

/-- Whether a token ends an entry of a block sequence without content. -/
def endsBlockEntry : Token → Bool
  | .blockEntry | .blockEnd => true
  | _ => false

/-- Whether a token ends an entry of a sequence that is not indented. -/
def endsLooseEntry : Token → Bool
  | .blockEntry | .key | .value | .blockEnd => true
  | _ => false

/-- Whether a token ends a key or a value of a block mapping without content. -/
def endsBlockPart : Token → Bool
  | .key | .value | .blockEnd => true
  | _ => false

/-- Whether a token ends a key in a flow mapping without content. -/
def endsFlowKey : Token → Bool
  | .value | .flowEntry | .flowMappingEnd => true
  | _ => false

/-- Whether a token ends a value in a flow mapping without content. -/
def endsFlowValue : Token → Bool
  | .flowEntry | .flowMappingEnd => true
  | _ => false

/-- Whether a token ends the key of a single pair without content. -/
def endsPairKey : Token → Bool
  | .value | .flowEntry | .flowSequenceEnd => true
  | _ => false

/-- Whether a token ends the value of a single pair without content. -/
def endsPairValue : Token → Bool
  | .flowEntry | .flowSequenceEnd => true
  | _ => false

mutual

/-- A node.  Blocks are allowed outside of brackets and braces, and a value of
a block mapping may be a sequence that is not indented. -/
def read? (handles : Handles) : Nat → Bool → Bool → List Token → Option (Node × List Token)
  | 0, _, _, _ => none
  | fuel + 1, block, loose, tokens =>
    match tokens with
    | .alias name :: rest => some (.alias name, rest)
    | _ => do
      let (properties, tokens) ← properties? handles tokens
      match tokens with
      | .blockEntry :: _ =>
        if loose then
          let (items, rest) ← looseItems? handles fuel tokens
          some (.sequence properties items, rest)
        else bare properties tokens
      | .scalar style content :: rest =>
        some (.scalar (scalarProperties properties) style content, rest)
      | .flowSequenceStart :: rest =>
        let (items, rest) ← flowItems? handles fuel true rest
        some (.sequence properties items, rest)
      | .flowMappingStart :: rest =>
        let (entries, rest) ← flowEntries? handles fuel true rest
        some (.mapping properties entries, rest)
      | .blockSequenceStart :: rest =>
        if block then
          let (items, rest) ← blockItems? handles fuel rest
          some (.sequence properties items, rest)
        else bare properties tokens
      | .blockMappingStart :: rest =>
        if block then
          let (entries, rest) ← blockEntries? handles fuel rest
          some (.mapping properties entries, rest)
        else bare properties tokens
      | _ => bare properties tokens

/-- A node or, in front of one of some tokens, no content. -/
def optional? (handles : Handles) :
    Nat → (Token → Bool) → Bool → Bool → List Token → Option (Node × List Token)
  | 0, _, _, _, _ => none
  | fuel + 1, ends, block, loose, tokens =>
    match tokens with
    | token :: _ => if ends token then some (empty, tokens) else read? handles fuel block loose tokens
    | [] => none

/-- The items of a block sequence. -/
def blockItems? (handles : Handles) : Nat → List Token → Option (List Node × List Token)
  | 0, _ => none
  | fuel + 1, tokens =>
    match tokens with
    | .blockEntry :: rest => do
      let (item, rest) ← optional? handles fuel endsBlockEntry true false rest
      let (items, rest) ← blockItems? handles fuel rest
      some (item :: items, rest)
    | .blockEnd :: rest => some ([], rest)
    | _ => none

/-- The items of a sequence that is not indented. -/
def looseItems? (handles : Handles) : Nat → List Token → Option (List Node × List Token)
  | 0, _ => none
  | fuel + 1, tokens =>
    match tokens with
    | .blockEntry :: rest => do
      let (item, rest) ← optional? handles fuel endsLooseEntry true false rest
      let (items, rest) ← looseItems? handles fuel rest
      some (item :: items, rest)
    | _ => some ([], tokens)

/-- The entries of a block mapping. -/
def blockEntries? (handles : Handles) : Nat → List Token → Option (List (Node × Node) × List Token)
  | 0, _ => none
  | fuel + 1, tokens =>
    match tokens with
    | .key :: rest => do
      let (key, rest) ← optional? handles fuel endsBlockPart true true rest
      let (value, rest) ← blockValue? handles fuel rest
      let (entries, rest) ← blockEntries? handles fuel rest
      some ((key, value) :: entries, rest)
    | .blockEnd :: rest => some ([], rest)
    | _ => none

/-- The value of an entry of a block mapping. -/
def blockValue? (handles : Handles) : Nat → List Token → Option (Node × List Token)
  | 0, _ => none
  | fuel + 1, tokens =>
    match tokens with
    | .value :: rest => optional? handles fuel endsBlockPart true true rest
    | _ => some (empty, tokens)

/-- The items of a flow sequence. -/
def flowItems? (handles : Handles) : Nat → Bool → List Token → Option (List Node × List Token)
  | 0, _, _ => none
  | fuel + 1, first, tokens =>
    match tokens with
    | .flowSequenceEnd :: rest => some ([], rest)
    | _ => do
      let tokens ←
        if first then some tokens
        else
          match tokens with
          | .flowEntry :: rest => some rest
          | _ => none
      match tokens with
      | .flowSequenceEnd :: rest => some ([], rest)
      | .key :: rest =>
        let (pair, rest) ← flowPair? handles fuel rest
        let (items, rest) ← flowItems? handles fuel false rest
        some (.mapping {} [pair] :: items, rest)
      | _ =>
        let (item, rest) ← read? handles fuel false false tokens
        let (items, rest) ← flowItems? handles fuel false rest
        some (item :: items, rest)

/-- A single pair inside a flow sequence. -/
def flowPair? (handles : Handles) : Nat → List Token → Option ((Node × Node) × List Token)
  | 0, _ => none
  | fuel + 1, tokens =>
    match tokens with
    | [] => none
    | token :: behind => do
      let (key, rest) ←
        if endsPairKey token then some (empty, behind) else read? handles fuel false false tokens
      match rest with
      | .value :: rest =>
        let (value, rest) ← optional? handles fuel endsPairValue false false rest
        some ((key, value), rest)
      | _ => some ((key, empty), rest)

/-- The entries of a flow mapping. -/
def flowEntries? (handles : Handles) :
    Nat → Bool → List Token → Option (List (Node × Node) × List Token)
  | 0, _, _ => none
  | fuel + 1, first, tokens =>
    match tokens with
    | .flowMappingEnd :: rest => some ([], rest)
    | _ => do
      let tokens ←
        if first then some tokens
        else
          match tokens with
          | .flowEntry :: rest => some rest
          | _ => none
      match tokens with
      | .flowMappingEnd :: rest => some ([], rest)
      | .key :: rest =>
        let (key, rest) ← optional? handles fuel endsFlowKey false false rest
        let (value, rest) ← flowValue? handles fuel rest
        let (entries, rest) ← flowEntries? handles fuel false rest
        some ((key, value) :: entries, rest)
      | _ =>
        let (key, rest) ← read? handles fuel false false tokens
        let (entries, rest) ← flowEntries? handles fuel false rest
        some ((key, empty) :: entries, rest)

/-- The value of an entry of a flow mapping. -/
def flowValue? (handles : Handles) : Nat → List Token → Option (Node × List Token)
  | 0, _ => none
  | fuel + 1, tokens =>
    match tokens with
    | .value :: rest => optional? handles fuel endsFlowValue false false rest
    | _ => some (empty, tokens)

/-- A node of which only the properties are written. -/
def bare (properties : Properties) (tokens : List Token) : Option (Node × List Token) :=
  if properties.anchor.isSome || properties.tag.isSome then
    some (.scalar properties .plain "", tokens)
  else none

end

/-- The directives in front of a document.  A version may be given once, and a
handle may be declared once. -/
def directives? (versioned : Bool) (handles : Handles) : List Token → Option (Handles × List Token)
  | .versionDirective major minor :: rest =>
    if versioned || major != 1 || (minor != 1 && minor != 2) then none
    else directives? true handles rest
  | .tagDirective handle expansion :: rest =>
    if handles.any (fun known => known.1 == handle) then none
    else directives? versioned (handles ++ [(handle, expansion)]) rest
  | rest => some (handles, rest)

/-- The handles that need no declaration. -/
def standardHandles : Handles := [("!", "!"), ("!!", "tag:yaml.org,2002:")]

/-- Whether a token stands for a document without content. -/
def endsDocument : Token → Bool
  | .versionDirective .. | .tagDirective .. | .documentStart | .documentEnd | .streamEnd => true
  | _ => false

/-- Whether nothing but marks follows a document. -/
def endsStream : List Token → Bool
  | .documentEnd :: rest => endsStream rest
  | [.streamEnd] => true
  | _ => false

/-- The single document of a stream; an empty stream is a document without
content. -/
def ofTokens? (tokens : List Token) : Option Node := do
  let fuel := 4 * tokens.length + 4
  let (node, rest) ←
    match tokens with
    | [.streamEnd] => some (empty, tokens)
    | .versionDirective .. :: _ | .tagDirective .. :: _ | .documentStart :: _ =>
      match directives? false [] tokens with
      | some (handles, .documentStart :: rest) =>
        optional? (handles ++ standardHandles) fuel endsDocument true false rest
      | _ => none
    | _ => read? standardHandles fuel true false tokens
  if endsStream rest then some node else none

end Node
end Yaml
end WorkflowEngine
