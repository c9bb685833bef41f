import Mathlib.Algebra.Ring.Nat
import Sealing.LittleEndian
/-!
# The range of little-endian numbers

The numbers that `width` bytes can hold are those below `256 ^ width`: no others are read, one that
is written comes back modulo that bound, and no two strings of one length are read as the same
number.
-/

namespace Sealing.LittleEndian

theorem decode_lt (bs : List UInt8) : decode bs < 256 ^ bs.length := by
  induction bs with
  | nil => simp [decode]
  | cons b bs ih =>
    have hb : b.toNat < 256 := b.toNat_lt
    simp only [decode, List.length_cons, Nat.pow_succ]
    omega

/-- Reading back the `width` lowest digits leaves the number modulo `256 ^ width`. -/
theorem decode_encode (width x : Nat) : decode (encode width x) = x % 256 ^ width := by
  induction width generalizing x with
  | zero => simp [encode, decode, Nat.mod_one]
  | succ width ih =>
    have low : (UInt8.ofNat x).toNat = x % 256 := UInt8.toNat_ofNat'
    rw [encode, decode, ih, low, Nat.pow_succ, Nat.mul_comm (256 ^ width) 256, Nat.mod_mul]

/-- Bytes further behind stand for the higher digits. -/
theorem decode_append (front rest : List UInt8) :
    decode (front ++ rest) = decode front + 256 ^ front.length * decode rest := by
  induction front with
  | nil => simp [decode]
  | cons b front ih =>
    simp only [List.cons_append, decode, ih, List.length_cons, Nat.pow_succ]
    rw [Nat.mul_add, Nat.mul_comm (256 ^ front.length) 256, Nat.mul_assoc, Nat.add_assoc]

/-- The first bytes stand for the lower digits. -/
theorem decode_take (bs : List UInt8) (width : Nat) :
    decode (bs.take width) = decode bs % 256 ^ width := by
  by_cases hwidth : width ≤ bs.length
  · have hlen : (bs.take width).length = width := List.length_take_of_le hwidth
    have hlt : decode (bs.take width) < 256 ^ width := by
      have h := decode_lt (bs.take width)
      rwa [hlen] at h
    have hsplit := decode_append (bs.take width) (bs.drop width)
    rw [List.take_append_drop, hlen] at hsplit
    rw [hsplit, Nat.add_mul_mod_self_left, Nat.mod_eq_of_lt hlt]
  · -- Nothing is cut off, and the number is below the bound as it is.
    have hle : bs.length ≤ width := Nat.le_of_not_le hwidth
    have hlt : decode bs < 256 ^ width :=
      Nat.lt_of_lt_of_le (decode_lt bs) (Nat.pow_le_pow_right (by decide) hle)
    rw [List.take_of_length_le hle, Nat.mod_eq_of_lt hlt]

theorem decode_inj {bs bs' : List UInt8} (hlen : bs.length = bs'.length) :
    decode bs = decode bs' ↔ bs = bs' := by
  constructor
  · intro h
    rw [← encode_decode bs, ← encode_decode bs', hlen, h]
  · intro h
    rw [h]

end Sealing.LittleEndian
