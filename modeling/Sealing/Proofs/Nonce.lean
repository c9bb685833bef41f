import Sealing.LittleEndian.Lemmas
import Sealing.Nonce
/-!
# Nonces as counters

A nonce is a number of 192 bits, lowest byte first, and the next nonce is the next number.  The loop
that adds one keeps a carry: behind any part of the bytes, what has been written and the carry that
is left make up what was read and the one that was added (`decode_addCarry`).  By induction on the
steps, the nonce `k` steps further is the number `k` higher modulo `2 ^ 192`, so that a sequence
comes back to a nonce only after all of them.
-/

namespace Sealing.Nonce

open LittleEndian

@[simp] theorem length_toList (nonce : Nonce) : nonce.toList.length = 24 :=
  nonce.bytes.length_toList

theorem toList_inj {a b : Nonce} : a.toList = b.toList ↔ a = b := by
  cases a
  cases b
  exact FixedBytes.toList_inj.trans (Nonce.mk.injEq .. ▸ Iff.rfl)

theorem ofList_toList (nonce : Nonce) : ofList nonce.toList = .ok nonce := by
  unfold ofList toList
  rw [FixedBytes.ofList_toList]
  rfl

/-! ## The number of a nonce -/

theorem value_lt (nonce : Nonce) : nonce.value < 2 ^ 192 := by
  have hlt : nonce.value < 256 ^ nonce.toList.length := decode_lt nonce.toList
  rw [length_toList] at hlt
  exact hlt

theorem value_inj {a b : Nonce} : a.value = b.value ↔ a = b := by
  have hlen : a.toList.length = b.toList.length := by rw [length_toList, length_toList]
  exact (decode_inj hlen).trans toList_inj

/-! ## Adding with a carry -/

/-- The carry that leaves a string of bytes to which another one is added. -/
def carryOut : (carry : UInt16) → List UInt8 → UInt16
  | carry, [] => carry
  | carry, b :: bs => carryOut ((carry + b.toUInt16) >>> 8) bs

/-- The bytes behind a part are added to with the carry that leaves it. -/
theorem addCarry_append (carry : UInt16) (front rest : List UInt8) :
    addCarry carry (front ++ rest) =
      addCarry carry front ++ addCarry (carryOut carry front) rest := by
  induction front generalizing carry with
  | nil => rfl
  | cons b front ih => simp only [List.cons_append, addCarry, carryOut, ih]

section
variable {carry : UInt16} (hcarry : carry.toNat ≤ 1)
include hcarry

/-- A byte and a carry of at most one have room in a word of 16 bits. -/
theorem toNat_sum (b : UInt8) : (carry + b.toUInt16).toNat = carry.toNat + b.toNat := by
  have hb : b.toNat < 256 := b.toNat_lt
  rw [UInt16.toNat_add, UInt8.toNat_toUInt16]
  exact Nat.mod_eq_of_lt (by omega)

theorem toNat_digit (b : UInt8) :
    (carry + b.toUInt16).toUInt8.toNat = (carry.toNat + b.toNat) % 256 := by
  rw [UInt16.toNat_toUInt8, toNat_sum hcarry]

theorem toNat_nextCarry (b : UInt8) :
    ((carry + b.toUInt16) >>> 8).toNat = (carry.toNat + b.toNat) / 256 := by
  rw [UInt16.toNat_shiftRight, toNat_sum hcarry, Nat.shiftRight_eq_div_pow]
  rfl

/-- The carry behind a byte is again at most one. -/
theorem toNat_nextCarry_le (b : UInt8) : ((carry + b.toUInt16) >>> 8).toNat ≤ 1 := by
  have hb : b.toNat < 256 := b.toNat_lt
  rw [toNat_nextCarry hcarry]
  omega

theorem toNat_carryOut_le (bs : List UInt8) : (carryOut carry bs).toNat ≤ 1 := by
  induction bs generalizing carry with
  | nil => exact hcarry
  | cons b bs ih => exact ih (toNat_nextCarry_le hcarry b)

/-- What was written, with the carry that is left above it, is what was read and the carry that was
added to it. -/
theorem decode_addCarry (bs : List UInt8) :
    decode (addCarry carry bs) + 256 ^ bs.length * (carryOut carry bs).toNat =
      decode bs + carry.toNat := by
  induction bs generalizing carry with
  | nil => simp [addCarry, carryOut, decode]
  | cons b bs ih =>
    have hrest := ih (toNat_nextCarry_le hcarry b)
    have hdigit := toNat_digit hcarry b
    have hnext := toNat_nextCarry hcarry b
    rw [hnext] at hrest
    -- The byte written is the remainder of the sum by 256, the carry behind it the quotient.
    simp only [addCarry, carryOut, decode, List.length_cons, hdigit, Nat.pow_succ]
    rw [Nat.mul_comm (256 ^ bs.length) 256, Nat.mul_assoc]
    omega

end

/-! ## The sequence of a nonce -/

theorem value_next (nonce : Nonce) : nonce.next.value = (nonce.value + 1) % 2 ^ 192 := by
  have hsum : nonce.next.value + 256 ^ nonce.toList.length * (carryOut 1 nonce.toList).toNat =
      nonce.value + 1 := decode_addCarry (by decide) nonce.toList
  rw [length_toList] at hsum
  -- What leaves the last byte is a multiple of the bound, and all that is dropped.
  calc nonce.next.value
      = nonce.next.value % 2 ^ 192 := (Nat.mod_eq_of_lt nonce.next.value_lt).symm
    _ = (nonce.next.value + 2 ^ 192 * (carryOut 1 nonce.toList).toNat) % 2 ^ 192 :=
        (Nat.add_mul_mod_self_left ..).symm
    _ = (nonce.value + 1) % 2 ^ 192 := congrArg (· % 2 ^ 192) hsum

@[simp] theorem advance_zero (nonce : Nonce) : nonce.advance 0 = nonce := rfl

theorem advance_succ (nonce : Nonce) (count : Nat) :
    nonce.advance (count + 1) = (nonce.advance count).next := rfl

theorem value_advance (nonce : Nonce) (count : Nat) :
    (nonce.advance count).value = (nonce.value + count) % 2 ^ 192 := by
  induction count with
  | zero => exact (Nat.mod_eq_of_lt nonce.value_lt).symm
  | succ count ih => rw [advance_succ, value_next, ih, Nat.mod_add_mod, Nat.add_assoc]

/-- A sequence comes back to a nonce after all `2 ^ 192` of them, and not before. -/
theorem advance_inj {nonce : Nonce} {i j : Nat} :
    nonce.advance i = nonce.advance j ↔ i % 2 ^ 192 = j % 2 ^ 192 := by
  rw [← value_inj, value_advance, value_advance]
  omega

theorem next_inj {a b : Nonce} : a.next = b.next ↔ a = b := by
  have ha := a.value_lt
  have hb := b.value_lt
  rw [← value_inj, ← value_inj, value_next, value_next]
  omega

/-- Nonces are counted up as the numbers that they stand for: after `k` steps comes the one that is
`k` higher modulo `2 ^ 192`, and no other.  So no nonce comes twice within `2 ^ 192` steps, and no
two nonces have the same next one.  On the way the carry in front of each byte is zero or one, and
its sum with the byte fits into 16 bits. -/
theorem advance_counts :
    (∀ (n m : Nonce) (k : Nat), n.advance k = m ↔ m.value = (n.value + k) % 2 ^ 192) ∧
    (∀ (n : Nonce) (i j : Nat), i < 2 ^ 192 → j < 2 ^ 192 → n.advance i = n.advance j → i = j) ∧
    (∀ n m : Nonce, n.next = m.next → n = m) ∧
    (∀ (n : Nonce) (front : List UInt8) (b : UInt8) (rest : List UInt8),
      n.toList = front ++ b :: rest →
      n.next.toList = addCarry 1 front ++ addCarry (carryOut 1 front) (b :: rest) ∧
      (carryOut 1 front = 0 ∨ carryOut 1 front = 1) ∧
      (carryOut 1 front).toNat + b.toNat < UInt16.size) := by
  refine ⟨?number, ?distinct, ?injective, ?carry⟩
  case number =>
    intro n m k
    rw [← value_advance, value_inj, eq_comm]
  case distinct =>
    intro n i j hi hj h
    have hmod := advance_inj.mp h
    rwa [Nat.mod_eq_of_lt hi, Nat.mod_eq_of_lt hj] at hmod
  case injective =>
    intro n m h
    exact next_inj.mp h
  case carry =>
    intro n front b rest hbytes
    have hle : (carryOut 1 front).toNat ≤ 1 := toNat_carryOut_le (by decide) front
    have hb : b.toNat < 256 := b.toNat_lt
    refine ⟨?_, ?_, ?_⟩
    · show addCarry 1 n.toList = _
      rw [hbytes, addCarry_append]
    · simp only [← UInt16.toNat_inj]
      show _ = 0 ∨ _ = 1
      omega
    · show _ < 65536
      omega

end Sealing.Nonce
