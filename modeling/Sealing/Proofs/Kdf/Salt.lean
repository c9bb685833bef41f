import Sealing.Proofs.Kdf.Parameters
import Sealing.Proofs.Nonce
/-!
# Salts along a sequence of nonces

The salt of a derivation is the lower 128 bits of the nonce, since both are read lowest byte first.
Counting a nonce up by one therefore counts its salt up by one: neighbours never share a salt, and
with it a derived key, and a sequence comes back to a salt only after all `2 ^ 128` of them.
-/

namespace Sealing.Kdf

open LittleEndian

/-- A derivation sees the first 16 bytes of its nonce and nothing else of it. -/
theorem deriveKey_congr {n m : Nonce} (h : n.toList.take 16 = m.toList.take 16)
    (password : String) (config : Config) :
    deriveKey password n config = deriveKey password m config := by
  have hsalt : salt n config.algorithm.saltLength = salt m config.algorithm.saltLength := by
    rw [salt_saltLength, salt_saltLength, h]
  unfold deriveKey
  rw [hsalt]

theorem decode_take_advance (n : Nonce) (k : Nat) :
    decode ((n.advance k).toList.take 16) = (decode (n.toList.take 16) + k) % 2 ^ 128 := by
  have hvalue : decode (n.advance k).toList = (decode n.toList + k) % 2 ^ 192 :=
    n.value_advance k
  have hdvd : 256 ^ 16 ∣ 2 ^ 192 := ⟨2 ^ 64, rfl⟩
  rw [decode_take, decode_take, hvalue, Nat.mod_mod_of_dvd _ hdvd]
  exact (Nat.mod_add_mod ..).symm

/-- Two nonces have the same salt if the numbers in their first 16 bytes are the same. -/
theorem salt_eq_iff (n m : Nonce) (algorithm : Algorithm) :
    salt n algorithm.saltLength = salt m algorithm.saltLength ↔
      decode (n.toList.take 16) = decode (m.toList.take 16) := by
  have hlen : (n.toList.take 16).length = (m.toList.take 16).length := by
    simp only [List.length_take, Nonce.length_toList]
  rw [salt_saltLength, salt_saltLength, Except.ok.injEq, decode_inj hlen]

/-- Two nonces of a sequence have the same salt if a multiple of `2 ^ 128` lies between them. -/
theorem salt_advance_eq_iff (n : Nonce) (i j : Nat) (algorithm : Algorithm) :
    salt (n.advance i) algorithm.saltLength = salt (n.advance j) algorithm.saltLength ↔
      i % 2 ^ 128 = j % 2 ^ 128 := by
  rw [salt_eq_iff, decode_take_advance, decode_take_advance]
  omega

/-- What a derivation under a password sees of its nonce is the salt, and the salt is counted up
with the nonce.  Nonces with the same first 16 bytes give the same key.  The salt of the nonce `k`
steps further is the number `k` higher modulo `2 ^ 128`, and Argon2 is given that salt; so it is the
salt of the nonce itself exactly if `2 ^ 128` divides `k`, which it does not for the next nonce, and
no salt comes twice among `2 ^ 128` nonces in a row. -/
theorem salt_counts :
    (∀ password config (n m : Nonce), n.toList.take 16 = m.toList.take 16 →
      deriveKey password n config = deriveKey password m config) ∧
    (∀ (config : Config) (n : Nonce) (k : Nat), ∃ bytes,
      salt (n.advance k) config.algorithm.saltLength = .ok bytes ∧ bytes.length = 16 ∧
      decode bytes = (decode (n.toList.take 16) + k) % 2 ^ 128 ∧
      ∀ password, config.Reachable → (passwordBytes password).length < 2 ^ 32 →
        ∃ p, config.parameters = .ok p ∧
          (deriveKey password (n.advance k) config).result =
            .ok ⟨Argon2.hash config.algorithm.variant p (passwordBytes password) bytes⟩) ∧
    (∀ (algorithm : Algorithm) (n : Nonce) (k : Nat),
      salt (n.advance k) algorithm.saltLength = salt n algorithm.saltLength ↔ 2 ^ 128 ∣ k) ∧
    (∀ (algorithm : Algorithm) (n : Nonce),
      salt n.next algorithm.saltLength ≠ salt n algorithm.saltLength) ∧
    (∀ (algorithm : Algorithm) (n : Nonce) (i j : Nat), i < j → j < i + 2 ^ 128 →
      salt (n.advance i) algorithm.saltLength ≠ salt (n.advance j) algorithm.saltLength) := by
  refine ⟨?same, ?counted, ?shared, ?neighbours, ?distinct⟩
  case same =>
    intro password config n m h
    exact deriveKey_congr h password config
  case counted =>
    intro config n k
    refine ⟨_, salt_saltLength _ _, ?_, decode_take_advance n k, ?_⟩
    · rw [List.length_take, Nonce.length_toList]
      rfl
    · intro password hconfig hpassword
      have hparameters := Config.parameters_of_valid (Config.reachable_iff_valid.mp hconfig)
      exact ⟨_, hparameters, by rw [deriveKey_eq_of_hashable _ hparameters hpassword]⟩
  case shared =>
    intro algorithm n k
    have h := salt_advance_eq_iff n k 0 algorithm
    rw [Nonce.advance_zero] at h
    rw [h, Nat.dvd_iff_mod_eq_zero]
    rfl
  case neighbours =>
    intro algorithm n h
    have hmod := (salt_advance_eq_iff n 1 0 algorithm).mp h
    omega
  case distinct =>
    intro algorithm n i j hij hj h
    have hmod := (salt_advance_eq_iff n i j algorithm).mp h
    omega

end Sealing.Kdf
