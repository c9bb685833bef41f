import Sealing.FixedBytes
import Sealing.LittleEndian
/-!
# Nonces

A nonce is used for one message under a key.  Read as a little-endian counter, a nonce has a next
one, so that a sender can number its messages.
-/

namespace Sealing

structure Nonce where
  bytes : FixedBytes 24
deriving DecidableEq

namespace Nonce

def length : Nat := 24

/-- Reads a nonce from its bytes, which must be `Nonce.length` many. -/
def ofList (bytes : List UInt8) : Except Error Nonce :=
  Nonce.mk <$> FixedBytes.ofList 24 "nonce" bytes

def toList (nonce : Nonce) : List UInt8 := nonce.bytes.toList

def zero : Nonce := ⟨FixedBytes.zero 24⟩

/-- The text for diagnosis, without the nonce. -/
def describe (nonce : Nonce) : String := Text.applied "Nonce" nonce.bytes.describe

/-- The nonce read as a little-endian number. -/
def value (nonce : Nonce) : Nat := LittleEndian.decode nonce.toList

/-- Adds a carry to a string of bytes, lowest byte first.  Every byte is visited, wherever the carry
ends; what leaves the last byte is dropped. -/
def addCarry : (carry : UInt16) → List UInt8 → List UInt8
  | _, [] => []
  | carry, b :: bs =>
    let sum := carry + b.toUInt16
    sum.toUInt8 :: addCarry (sum >>> 8) bs

@[simp] theorem length_addCarry (carry : UInt16) (bs : List UInt8) :
    (addCarry carry bs).length = bs.length := by
  induction bs generalizing carry with
  | nil => rfl
  | cons b bs ih => simp [addCarry, ih]

/-- The next nonce in the sequence; after the largest comes zero. -/
def next (nonce : Nonce) : Nonce :=
  ⟨⟨addCarry 1 nonce.toList, by simp [toList]⟩⟩

/-- The nonce `count` steps further. -/
def advance (nonce : Nonce) (count : Nat) : Nonce :=
  count.repeat next nonce

end Nonce

end Sealing
