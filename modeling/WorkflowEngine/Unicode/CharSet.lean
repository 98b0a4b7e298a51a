import WorkflowEngine.Unicode.CaseFolding

/-!
# Sets of characters

Sets built from ranges by the set operations.  Membership is decided without
ever listing a set.
-/

namespace WorkflowEngine
namespace Unicode

/-- A set of code points. -/
inductive CharSet where
  | ranges (content : Ranges)
  | union (first second : CharSet)
  | inter (first second : CharSet)
  | compl (set : CharSet)
  /-- Everything that folds like a member. -/
  | anyCase (set : CharSet)
  /-- As `anyCase`, for ASCII letters only. -/
  | anyAsciiCase (set : CharSet)
deriving Repr, Inhabited

namespace CharSet

/-- The empty set. -/
def empty : CharSet := .ranges []

/-- The code points from one to another. -/
def between (first last : Nat) : CharSet := .ranges [⟨first, last, 1⟩]

/-- The set of one code point. -/
def single (code : Nat) : CharSet := between code code

/-- The union of tables. -/
def unionOf (tables : List Ranges) : CharSet :=
  tables.foldr (fun table set => .union (.ranges table) set) empty

/-- The other case of an ASCII letter, or the character itself. -/
def swapAsciiCase (code : Nat) : Nat :=
  if 0x41 ≤ code ∧ code ≤ 0x5A then code + 32
  else if 0x61 ≤ code ∧ code ≤ 0x7A then code - 32
  else code

/-- Membership. -/
def contains : CharSet → Nat → Bool
  | .ranges content, code => content.contains code
  | .union first second, code => first.contains code || second.contains code
  | .inter first second, code => first.contains code && second.contains code
  | .compl set, code => !set.contains code
  | .anyCase set, code => (caseVariants code).any set.contains
  | .anyAsciiCase set, code => set.contains code || set.contains (swapAsciiCase code)

@[simp] theorem contains_union (first second : CharSet) (code : Nat) :
    (union first second).contains code = (first.contains code || second.contains code) := rfl

@[simp] theorem contains_inter (first second : CharSet) (code : Nat) :
    (inter first second).contains code = (first.contains code && second.contains code) := rfl

@[simp] theorem contains_compl (set : CharSet) (code : Nat) :
    (compl set).contains code = !set.contains code := rfl

end CharSet
end Unicode
end WorkflowEngine
