/-!
# Numbers in arguments

An unsigned number is written in decimal digits, with a plus sign in front if one likes.  A real
number may have a fraction and a power of ten as well.
-/

namespace Sealing.Text

/-- Why a text is no number. -/
inductive NumberFault where
  | empty
  | notDigit
  | tooLarge
deriving DecidableEq, Repr

def NumberFault.message : NumberFault → String
  | empty => "cannot parse integer from empty string"
  | notDigit => "invalid digit found in string"
  | tooLarge => "number too large to fit in target type"

/-- Reads digits behind those that made `value`; the number stays below `bound`.  The first fault
from the left counts. -/
def readDigits (bound value : Nat) : List Char → Except NumberFault Nat
  | [] => .ok value
  | c :: cs =>
    if c.isDigit then
      let next := 10 * value + (c.toNat - 48)
      if next < bound then readDigits bound next cs else .error .tooLarge
    else .error .notDigit

/-- Reads a number below `bound`. -/
def readNumber (bound : Nat) (s : String) : Except NumberFault Nat :=
  match s.toList with
  | [] => .error .empty
  | ['+'] => .error .notDigit
  | '+' :: digits => readDigits bound 0 digits
  | digits => readDigits bound 0 digits

/-- The numbers of 64 bits lie below this one. -/
def wordBound : Nat := 0x10000000000000000

/-! ## Real numbers -/

/-- A text without the sign that it may begin with. -/
def dropSign : List Char → List Char
  | '+' :: cs => cs
  | '-' :: cs => cs
  | cs => cs

/-- Whether a text is a power of ten behind a number, or nothing. -/
def isPower : List Char → Bool
  | [] => true
  | c :: cs =>
    let digits := dropSign cs
    (c = 'e' || c = 'E') && digits ≠ [] && digits.all Char.isDigit

/-- Whether a text is a real number, infinite or undefined ones included. -/
def isReal (s : String) : Bool :=
  let body := dropSign s.toList
  let whole := body.takeWhile Char.isDigit
  let (fraction, rest) :=
    match body.dropWhile Char.isDigit with
    | '.' :: more => (more.takeWhile Char.isDigit, more.dropWhile Char.isDigit)
    | more => ([], more)
  ["inf", "infinity", "nan"].contains (String.ofList (body.map Char.toLower))
    || ((whole ++ fraction ≠ []) && isPower rest)

end Sealing.Text
