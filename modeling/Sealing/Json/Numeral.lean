import Sealing.Json.Value
import Sealing.Text.Front
/-!
# Numbers written in JSON

A number without a fraction and without a power of ten is an integer if it has at most 64 bits.
Every other one is read into the format binary64: its first digits as far as they have 64 bits make
an integer, which a power of ten then moves to its place.
-/

namespace Sealing.Json

open Text (Front)

/-- A number as it is written. -/
structure Numeral where
  negative : Bool
  whole : List Char
  fraction : Option (List Char)
  power : Option Int
deriving DecidableEq, Repr

def digitValue (c : Char) : Nat := c.toNat - 48

def digitsValue (digits : List Char) : Nat :=
  digits.foldl (fun n c => 10 * n + digitValue c) 0

namespace Numeral

/-- The numbers of 64 bits lie below this one. -/
def bound : Nat := 0x10000000000000000

/-- Adds digits to an integer as long as it stays below the bound; tells which are left. -/
def accumulate (n : Nat) : List Char → Nat × List Char
  | [] => (n, [])
  | c :: cs =>
    let next := 10 * n + digitValue c
    if next < bound then accumulate next cs else (n, c :: cs)

/-- The greatest power of ten of the format binary64. -/
def stride : Nat := 308

/-- Divides by a power of ten. -/
def divideOnce (x : Binary64) (power : Nat) : Option Binary64 :=
  (Binary64.ofDecimal 1 power).bind x.scaleDown

/-- Divides so many times by the greatest power of ten; zero stays as it is. -/
def divideOften (x : Binary64) : Nat → Option Binary64
  | 0 => some x
  | times + 1 =>
    if x.isZero then some x else (divideOnce x stride).bind fun y => divideOften y times

/-- Divides by a power of ten, by the greatest one first as often as it takes. -/
def divide (x : Binary64) (power : Nat) : Option Binary64 :=
  let times := (power - 1) / stride
  (divideOften x times).bind fun y => divideOnce y (power - times * stride)

def move (n : Nat) (power : Int) : Option Binary64 :=
  (Binary64.ofNat n).bind fun x =>
    if power < 0 then divide x (-power).toNat
    else if x.isZero then some x
    else if power.toNat ≤ stride then (Binary64.ofDecimal 1 power).bind x.scaleUp
    else none

/-- The number of the format binary64 that is meant. -/
def toBinary64? (n : Numeral) : Option Binary64 :=
  let (leading, dropped) := accumulate 0 n.whole
  let fraction := n.fraction.getD []
  let (digits, unused) := accumulate leading fraction
  let power := n.power.getD 0 + dropped.length - (fraction.length - unused.length)
  (move digits power).map fun x => { x with negative := n.negative }

/-- The integer that is meant, if it is one of 64 bits. -/
def toInteger? (n : Numeral) : Option Int :=
  let magnitude := digitsValue n.whole
  if n.fraction.isSome ∨ n.power.isSome then none
  else if n.negative then
    if 0 < magnitude ∧ magnitude ≤ bound / 2 then some (-magnitude) else none
  else if magnitude < bound then some magnitude
  else none

def toJson? (n : Numeral) : Option Json :=
  match n.toInteger? with
  | some value => some (.integer value)
  | none => n.toBinary64?.map .binary64

end Numeral

/-! ## Reading -/

/-- Reads the digits at the front of a text. -/
def readDigits (cs : List Char) : Front (List Char) cs :=
  ⟨cs.takeWhile Char.isDigit, cs.dropWhile Char.isDigit, (List.dropWhile_sublist _).length_le⟩

/-- Reads a fraction behind a number, if there is one. -/
def readFraction : (cs : List Char) → Option (Front (Option (List Char)) cs)
  | '.' :: cs =>
    let front := readDigits cs
    if front.value = [] then none else some (front.map some).behind
  | _ => some (.here none)

/-- Reads digits as a power of ten. -/
def readPowerDigits (negative : Bool) (cs : List Char) : Option (Front (Option Int) cs) :=
  let front := readDigits cs
  if front.value = [] then none
  else
    let magnitude (digits : List Char) : Int := digitsValue digits
    some (front.map fun digits => some (if negative then -magnitude digits else magnitude digits))

/-- Reads a power of ten behind a number, if there is one. -/
def readPower : (cs : List Char) → Option (Front (Option Int) cs)
  | c :: cs =>
    if c = 'e' ∨ c = 'E' then
      match cs with
      | '+' :: cs => (readPowerDigits false cs).map (·.behind.behind)
      | '-' :: cs => (readPowerDigits true cs).map (·.behind.behind)
      | cs => (readPowerDigits false cs).map (·.behind)
    else some (.here none)
  | [] => some (.here none)

/-- Reads a number without a sign.  It begins with the digit zero only if that is its whole part. -/
def readUnsigned (negative : Bool) (cs : List Char) : Option (Front Numeral cs) := do
  let whole := readDigits cs
  if whole.value = [] ∨ (whole.value.head? = some '0' ∧ whole.value ≠ ['0']) then none
  else
    let fraction ← readFraction whole.rest
    let power ← readPower fraction.rest
    let numeral : Numeral := ⟨negative, whole.value, fraction.value, power.value⟩
    return ((power.map fun _ => numeral).within fraction.length_rest_le).within
      whole.length_rest_le

def readNumeral : (cs : List Char) → Option (Front Numeral cs)
  | '-' :: cs => (readUnsigned true cs).map (·.behind)
  | cs => readUnsigned false cs

end Sealing.Json
