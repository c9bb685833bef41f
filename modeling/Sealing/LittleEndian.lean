/-!
# Little-endian numbers

Integers are written least significant byte first: the header limits, the words of the ciphers, and
the nonce read as a counter all use this one order.  `decode` reads any number of bytes, `encode w`
writes the `w` lowest digits in base 256, and bytes are the digits of the number that they decode
to.
-/

namespace Sealing.LittleEndian

/-- The number whose base-256 digits are the bytes, lowest first. -/
def decode : List UInt8 → Nat
  | [] => 0
  | b :: bs => b.toNat + 256 * decode bs

/-- The `width` lowest base-256 digits of a number, lowest first. -/
def encode : (width : Nat) → Nat → List UInt8
  | 0, _ => []
  | width + 1, x => UInt8.ofNat x :: encode width (x / 256)

@[simp] theorem length_encode (width x : Nat) : (encode width x).length = width := by
  induction width generalizing x with
  | zero => rfl
  | succ width ih => simp [encode, ih]

/-- Bytes are the digits of the number that they decode to. -/
theorem encode_decode (bs : List UInt8) : encode bs.length (decode bs) = bs := by
  induction bs with
  | nil => rfl
  | cons b bs ih =>
    have hb : b.toNat < 256 := b.toNat_lt
    have hdiv : (b.toNat + 256 * decode bs) / 256 = decode bs := by omega
    have hmod : UInt8.ofNat (b.toNat + 256 * decode bs) = b := by
      apply UInt8.toNat_inj.mp
      rw [UInt8.toNat_ofNat']
      omega
    simp only [decode, List.length_cons, encode, hdiv, ih, hmod]

end Sealing.LittleEndian
