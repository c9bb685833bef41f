import Sealing.Message.Password
import Sealing.Proofs.Message
/-!
# Messages under a password

The operations under a password are those under the key that is derived from it, so that decryption
inverts encryption for a password too.  The check of the length in front of the derivation refuses
nothing that decryption would take.
-/

namespace Sealing.Message

variable (password : String) (nonce : Nonce) (config : Kdf.Config)

theorem result_encryptWithPassword_eq_ok_iff {message ciphertext : List UInt8} :
    (encryptWithPassword password nonce config message).result = .ok ciphertext ↔
      ∃ key, (Kdf.deriveKey password nonce config).result = .ok key ∧
        (encrypt key nonce message).result = .ok ciphertext := by
  unfold encryptWithPassword
  exact Outcome.result_bind_eq_ok_iff

theorem result_decryptWithPassword_eq_ok_iff {ciphertext : List UInt8}
    {opened : Option (List UInt8)} :
    (decryptWithPassword password nonce config ciphertext).result = .ok opened ↔
      ∃ key, (Kdf.deriveKey password nonce config).result = .ok key ∧
        (decrypt key nonce ciphertext).result = .ok opened := by
  unfold decryptWithPassword
  rw [Outcome.result_bind_eq_ok_iff]
  simp only [Outcome.result_bind_eq_ok_iff, Outcome.result_lift]
  constructor
  · rintro ⟨u, -, hopened⟩
    exact hopened
  · rintro ⟨key, hkey, hopened⟩
    have hlen : tagLength ≤ ciphertext.length := le_length_of_decrypt key nonce hopened
    exact ⟨(), result_checkCombined_eq_ok_iff.mpr hlen, key, hkey, hopened⟩

/-- A ciphertext is read as a message under a password exactly if it is that message's encryption
under it. -/
theorem result_decryptWithPassword_eq_some_iff {message ciphertext : List UInt8} :
    (decryptWithPassword password nonce config ciphertext).result = .ok (some message) ↔
      (encryptWithPassword password nonce config message).result = .ok ciphertext := by
  simp only [result_decryptWithPassword_eq_ok_iff, result_encryptWithPassword_eq_ok_iff,
    result_decrypt_eq_some_iff]

theorem length_of_encryptWithPassword {message ciphertext : List UInt8}
    (h : (encryptWithPassword password nonce config message).result = .ok ciphertext) :
    ciphertext.length = message.length + tagLength := by
  obtain ⟨key, -, hencrypt⟩ := (result_encryptWithPassword_eq_ok_iff password nonce config).mp h
  exact length_of_encrypt key nonce hencrypt

end Sealing.Message
