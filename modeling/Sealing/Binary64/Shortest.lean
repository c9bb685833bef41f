import Sealing.Binary64
/-!
# The shortest decimal of a number

Of the decimals that read back as a number, the one with the fewest digits, and of these the nearest
to it, of two that are equally near the even one.
-/

namespace Sealing.Binary64

/-- The magnitude in units of a power of ten, as a quotient. -/
def inDecimalUnits (x : Binary64) (power : Int) : Nat × Nat :=
  let (num, den) := x.ratio
  if 0 ≤ power then (num, den * Nat.pow 10 power.toNat)
  else (num * Nat.pow 10 (-power).toNat, den)

/-- The power of ten of the first digit that is not zero. -/
def leadingPower (x : Binary64) : Int :=
  -- in these units every number but zero has some digits before the point
  let (num, den) := x.inDecimalUnits (-350)
  (Nat.toDigits 10 (num / den)).length - 351

/-- Whether a decimal reads back as the magnitude of a number. -/
def readsAs (x : Binary64) (digits : Nat) (power : Int) : Bool :=
  ofDecimal digits power = some x.abs

/-- The nearest of the two neighbours of a magnitude among the multiples of a power of ten, if it
reads back; else the other one, if that does. -/
def neighbour? (x : Binary64) (power : Int) : Option Nat :=
  let (num, den) := x.inDecimalUnits power
  let near := roundHalfEven num den
  let far := if near = num / den then near + 1 else near - 1
  if x.readsAs near power then some near
  else if x.readsAs far power then some far
  else none

/-- The digits of the shortest decimal and the power of ten of the last of them.  No number needs
more than seventeen. -/
def shortest? (x : Binary64) : Option (Nat × Int) :=
  (List.range 17).findSome? fun (further : Nat) =>
    let power := x.leadingPower - further
    (x.neighbour? power).map fun digits => (digits, power)

end Sealing.Binary64
