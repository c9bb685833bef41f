/-!
# Sets of characters

A property that a table defines is kept as the ranges of code points that have it.
-/

namespace Sealing.Text

/-- A set of characters, given by closed ranges of code points in ascending order. -/
structure CharSet where
  ranges : List (Nat × Nat)
deriving DecidableEq, Repr

namespace CharSet

def contains (s : CharSet) (c : Char) : Bool :=
  s.ranges.any fun range => range.1 ≤ c.toNat && c.toNat ≤ range.2

end CharSet

end Sealing.Text
