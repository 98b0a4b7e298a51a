import WorkflowEngine.Tree.Basic
import WorkflowEngine.Yaml.Lexer
import WorkflowEngine.Yaml.Node

/-!
# Documents

The document tree of a YAML text.  Every alias is replaced by the node that its
anchor marks, within limits on nesting and on the number of replacements.
-/

namespace WorkflowEngine
namespace Yaml

/-- The names of anchors met so far, each with the number that its aliases
refer to. -/
abbrev AnchorNumbers := List (String × Nat)

/-- The nodes that numbers refer to, the latest first. -/
abbrev AnchorNodes := List (Nat × Node)

/-- The anchors of the nodes read so far. -/
structure Anchors where
  numbers : AnchorNumbers := []
  nodes : AnchorNodes := []
  /-- The number of nodes and ends of nodes so far. -/
  events : Nat := 0
deriving Inhabited

namespace Anchors

/-- Notes the anchor of a node.  Its number is the number of names so far. -/
def note (anchors : Anchors) (properties : Properties) (node : Node) (events : Nat) : Anchors :=
  let anchors := { anchors with events := anchors.events + events }
  match properties.anchor with
  | none => anchors
  | some name =>
    let number := anchors.numbers.length
    { anchors with
      numbers :=
        if anchors.numbers.any (fun known => known.1 == name) then
          anchors.numbers.map fun known => if known.1 == name then (name, number) else known
        else anchors.numbers ++ [(name, number)]
      nodes := (number, node) :: anchors.nodes }

mutual

/-- Replaces the names of aliases by numbers, in the order of the text.  An
alias has to come behind an anchor of its name. -/
def number : Node → Anchors → Option (Node × Anchors)
  | .alias name, anchors =>
    (anchors.numbers.lookup name).map fun number =>
      (.alias (toString number), { anchors with events := anchors.events + 1 })
  | .scalar properties style content, anchors =>
    let node := Node.scalar properties style content
    some (node, anchors.note properties node 1)
  | .sequence properties items, anchors => do
    let anchors := anchors.note properties .empty 2
    let position := anchors.nodes.length
    let (items, anchors) ← numberItems items anchors
    let node := Node.sequence properties items
    some (node, anchors.settle properties position node)
  | .mapping properties entries, anchors => do
    let anchors := anchors.note properties .empty 2
    let position := anchors.nodes.length
    let (entries, anchors) ← numberEntries entries anchors
    let node := Node.mapping properties entries
    some (node, anchors.settle properties position node)

/-- Numbers the aliases in the items of a sequence. -/
def numberItems : List Node → Anchors → Option (List Node × Anchors)
  | [], anchors => some ([], anchors)
  | item :: rest, anchors => do
    let (item, anchors) ← number item anchors
    let (rest, anchors) ← numberItems rest anchors
    some (item :: rest, anchors)

/-- Numbers the aliases in the entries of a mapping. -/
def numberEntries : List (Node × Node) → Anchors → Option (List (Node × Node) × Anchors)
  | [], anchors => some ([], anchors)
  | (key, value) :: rest, anchors => do
    let (key, anchors) ← number key anchors
    let (value, anchors) ← number value anchors
    let (rest, anchors) ← numberEntries rest anchors
    some ((key, value) :: rest, anchors)

/-- Puts a finished node in the place that was kept for it. -/
def settle (anchors : Anchors) (properties : Properties) (position : Nat) (node : Node) :
    Anchors :=
  match properties.anchor with
  | none => anchors
  | some _ =>
    let later := anchors.nodes.length - position
    { anchors with
      nodes :=
        anchors.nodes.take later ++
          (match anchors.nodes.drop later with
          | (number, _) :: rest => (number, node) :: rest
          | [] => []) }

end

/-- The node that an alias stands for. -/
def find? (anchors : Anchors) (number : String) : Option Node :=
  (anchors.nodes.find? (fun entry => toString entry.1 == number)).map Prod.snd

end Anchors

/-- The levels of nesting that a document may have. -/
def depthLimit : Nat := 128

/-- The text of a key, when it is a scalar. -/
def keyText? : Tree → Option String
  | .scalar _ _ content => some content
  | _ => none

mutual

/-- The tree of a node whose aliases are numbered, given the levels of nesting
and the number of replacements that are left. -/
def expand (anchors : Anchors) : Nat → Nat → Node → Nat → Tree × Nat
  | 0, _, _, budget => (.broken, budget)
  | _, _, .scalar properties style content, budget =>
    (.scalar properties.tag style content, budget)
  | fuel + 1, depth, .alias number, budget =>
    match budget, anchors.find? number with
    | budget + 1, some node => expand anchors fuel depth node budget
    | _, _ => (.broken, 0)
  | _ + 1, 0, .sequence .., budget => (.broken, budget)
  | fuel + 1, depth + 1, .sequence properties items, budget =>
    let (items, budget) := expandItems anchors fuel depth items budget
    (.sequence properties.tag items, budget)
  | _ + 1, 0, .mapping .., budget => (.broken, budget)
  | fuel + 1, depth + 1, .mapping properties entries, budget =>
    let (entries, budget) := expandEntries anchors fuel depth entries budget
    (.mapping properties.tag entries, budget)

/-- The trees of the items of a sequence. -/
def expandItems (anchors : Anchors) : Nat → Nat → List Node → Nat → List Tree × Nat
  | 0, _, _, budget => ([.broken], budget)
  | _, _, [], budget => ([], budget)
  | fuel + 1, depth, item :: rest, budget =>
    let (item, budget) := expand anchors fuel depth item budget
    let (rest, budget) := expandItems anchors fuel depth rest budget
    (item :: rest, budget)

/-- The trees of the entries of a mapping. -/
def expandEntries (anchors : Anchors) :
    Nat → Nat → List (Node × Node) → Nat → List (Option String × Tree) × Nat
  | 0, _, _, budget => ([(none, .broken)], budget)
  | _, _, [], budget => ([], budget)
  | fuel + 1, depth, (key, value) :: rest, budget =>
    let (key, budget) := expand anchors fuel depth key budget
    let (value, budget) := expand anchors fuel depth value budget
    let (rest, budget) := expandEntries anchors fuel depth rest budget
    ((keyText? key, value) :: rest, budget)

end

/-- The tree of a node. -/
def Node.toTree? (node : Node) : Option Tree :=
  (Anchors.number node {}).map fun (node, anchors) =>
    let budget := anchors.events * 100
    let fuel := (depthLimit + 2) * (anchors.events + 4)
    (expand anchors fuel depthLimit node budget).1

/-- Reads the single document of a text. -/
def readTree? (text : String) : Option Tree :=
  (tokens? text).bind fun tokens => (Node.ofTokens? tokens).bind Node.toTree?

end Yaml
end WorkflowEngine
