import Sealing.LittleEndian
/-!
# Poly1305

The one-time authenticator.  A message is a polynomial whose coefficients are its blocks of sixteen
bytes; the tag is its value at a secret point modulo `2 ^ 130 - 5`, plus a secret number.
-/

namespace Sealing.Cipher.Poly1305

def modulus : Nat := 0x3fffffffffffffffffffffffffffffffb

/-- The secret point with the bits cleared that the authenticator leaves unused. -/
def clamp (r : Nat) : Nat := r &&& 0x0ffffffc0ffffffc0ffffffc0fffffff

/-- A block as a coefficient: its bytes with a one behind them. -/
def coefficient (block : List UInt8) : Nat :=
  LittleEndian.decode (block ++ [1])

/-- The value at `point` of the polynomial that continues `value` with the blocks of a message. -/
def evaluate (point value : Nat) (message : List UInt8) : Nat :=
  if message = [] then value
  else
    evaluate point ((value + coefficient (message.take 16)) * point % modulus) (message.drop 16)
termination_by message.length
decreasing_by
  have : 0 < message.length := List.length_pos_iff.mpr ‹_›
  simp only [List.length_drop]
  omega

/-- The tag of a message under a key of 32 bytes. -/
def tag (key message : List UInt8) : List UInt8 :=
  let point := clamp (LittleEndian.decode (key.take 16))
  let mask := LittleEndian.decode (key.drop 16)
  LittleEndian.encode 16 (evaluate point 0 message + mask)

@[simp] theorem length_tag (key message : List UInt8) : (tag key message).length = 16 := by
  simp [tag]

end Sealing.Cipher.Poly1305
