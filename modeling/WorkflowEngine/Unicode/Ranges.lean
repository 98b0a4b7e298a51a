/-!
# Sets of characters as ranges

A set of characters given by ranges of code points in increasing order.  A
range may have a stride, as capital and small letters often alternate.
-/

namespace WorkflowEngine
namespace Unicode

/-- Every `stride`-th code point from `first` to `last`. -/
structure Range where
  first : Nat
  last : Nat
  stride : Nat
deriving Repr, DecidableEq

/-- Ranges in increasing order. -/
abbrev Ranges := List Range

/-- Whether a code point belongs to a range. -/
def Range.contains (range : Range) (code : Nat) : Bool :=
  range.first ≤ code && code ≤ range.last && (code - range.first) % range.stride == 0

/-- Whether a code point belongs to one of the ranges. -/
def Ranges.contains : Ranges → Nat → Bool
  | [], _ => false
  | range :: rest, code =>
    range.contains code || (range.last < code && Ranges.contains rest code)

end Unicode
end WorkflowEngine
