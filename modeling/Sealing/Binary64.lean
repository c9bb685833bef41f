/-!
# Numbers of the format binary64

A finite number of this format is a sign, a significand of 53 bits and a power of two of at least
-1074.  Each operation is exact on natural numbers and then rounded once, a half to the even
neighbour; there are no infinite results.
-/

namespace Sealing

/-- A finite number of the format binary64.  Its magnitude is the significand times a power of two;
the exponent is as small as it can be. -/
structure Binary64 where
  negative : Bool
  significand : Nat
  exponent : Int
  significand_lt : significand < 0x20000000000000
deriving DecidableEq, Repr

namespace Binary64

def minExponent : Int := -1074

def maxExponent : Int := 971

instance : Inhabited Binary64 := ⟨⟨false, 0, minExponent, by decide⟩⟩

/-- A quotient in units of a power of two, as a quotient again. -/
def inUnits (num den : Nat) (exponent : Int) : Nat × Nat :=
  if 0 ≤ exponent then (num, den <<< exponent.toNat) else (num <<< (-exponent).toNat, den)

/-- The integer next to a quotient, of two that are equally near the even one. -/
def roundHalfEven (num den : Nat) : Nat :=
  let whole := num / den
  let twice := 2 * (num % den)
  if den < twice ∨ (twice = den ∧ whole % 2 = 1) then whole + 1 else whole

/-- The exponent at which a quotient has 53 bits before the point, or the least one. -/
def exponentOf (num den : Nat) : Int :=
  let rough : Int := (num.log2 : Int) - den.log2 - 52
  let (n, d) := inUnits num den rough
  max minExponent (if n / d < 0x10000000000000 then rough - 1 else rough)

/-- The number next to a quotient, if there is one of its size. -/
def ofRatio (negative : Bool) (num den : Nat) : Option Binary64 :=
  let exponent := if num = 0 then minExponent else exponentOf num den
  let (n, d) := inUnits num den exponent
  let significand := roundHalfEven n d
  -- rounding up may need one bit more, which makes the significand a power of two
  let (significand, exponent) :=
    if significand = 0x20000000000000 then (0x10000000000000, exponent + 1)
    else (significand, exponent)
  if h : significand < 0x20000000000000 ∧ exponent ≤ maxExponent then
    some ⟨negative, significand, exponent, h.1⟩
  else none

def ratio (x : Binary64) : Nat × Nat :=
  if 0 ≤ x.exponent then (x.significand <<< x.exponent.toNat, 1)
  else (x.significand, 1 <<< (-x.exponent).toNat)

def isZero (x : Binary64) : Bool := x.significand = 0

def abs (x : Binary64) : Binary64 := { x with negative := false }

def ofNat (n : Nat) : Option Binary64 := ofRatio false n 1

/-- The product of a number and a magnitude. -/
def scaleUp (x y : Binary64) : Option Binary64 :=
  ofRatio x.negative (x.ratio.1 * y.ratio.1) (x.ratio.2 * y.ratio.2)

/-- The quotient of a number by a magnitude. -/
def scaleDown (x y : Binary64) : Option Binary64 :=
  ofRatio x.negative (x.ratio.1 * y.ratio.2) (x.ratio.2 * y.ratio.1)

/-- The number next to a power of ten times a natural number. -/
def ofDecimal (digits : Nat) (power : Int) : Option Binary64 :=
  if 0 ≤ power then ofRatio false (digits * Nat.pow 10 power.toNat) 1
  else ofRatio false digits (Nat.pow 10 (-power).toNat)

end Binary64

end Sealing
