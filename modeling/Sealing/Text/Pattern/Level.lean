/-!
# Depth of patterns

Parts of a pattern lie in each other, and none lies deeper than `Pattern.deepest`.  A character lies
at depth 0.  A group, a class and a repetition are one deeper than what they hold, and so are a row
of several parts and several sides that a sign joins.
-/

namespace Sealing.Text.Pattern

/-- The greatest depth of a pattern. -/
def deepest : Nat := 250

/-- The depth of what has been read of a group or of a class. -/
structure Level where
  /-- The number of parts that stand in a row. -/
  parts : Nat := 0
  /-- The depth of the deepest of them. -/
  depth : Nat := 0
  /-- The depth of the last of them. -/
  last : Nat := 0
  /-- The depth of what a sign joins to the row, on its left. -/
  left : Option Nat := none
deriving DecidableEq, Repr

namespace Level

/-- The depth of the row. -/
def row (l : Level) : Nat :=
  if l.parts ≤ 1 then l.depth else l.depth + 1

def sides (l : Level) : Nat :=
  max (l.left.getD 0) l.row

def whole (l : Level) : Nat :=
  if l.left.isSome then l.sides + 1 else l.row

/-- Puts a part behind the others. -/
def add (l : Level) (depth : Nat) : Level :=
  { l with parts := l.parts + 1, depth := max l.depth depth, last := depth }

/-- Repeats the last part. -/
def repeated (l : Level) : Level :=
  { l with depth := max l.depth (l.last + 1), last := l.last + 1 }

/-- Begins another alternative.  All alternatives of a group are sides of one whole. -/
def alternative (l : Level) : Level :=
  { left := some l.sides }

/-- Begins the right side of a sign between two sides of a class.  All in front of the sign is its
left side. -/
def joined (l : Level) : Level :=
  { left := some l.whole }

end Level

end Sealing.Text.Pattern
