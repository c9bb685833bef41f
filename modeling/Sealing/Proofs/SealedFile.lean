import Sealing.SealedFile
import Sealing.Proofs.Envelope
import Sealing.Proofs.Message.Password
/-!
# Opening inverts sealing

A seal is the encoding of a well-formed envelope that holds the encryption of a message, and opening
decodes the envelope and decrypts what it holds.  Both steps of the one are inverse to those of the
other, so that a file is opened to a message exactly if it is a seal of that message, under some
nonce and, for a password, at some cost below the ceiling.
-/

namespace Sealing.SealedFile

open Envelope Kdf

variable {data message : List UInt8}

/-! ## Sealing -/

theorem result_sealWithKey_eq_ok_iff {nonce : Nonce} {key : Key} :
    (sealWithKey nonce key message).result = .ok data ↔
      ∃ ciphertext, (Message.encrypt key nonce message).result = .ok ciphertext ∧
        encode (.new none nonce ciphertext) = .ok data := by
  unfold sealWithKey
  exact Outcome.result_bind_eq_ok_iff

/-- A cost above the ceiling is not sealed with. -/
theorem result_sealWithPassword_eq_ok_iff {nonce : Nonce} {password : String} {config : Config} :
    (sealWithPassword nonce password config message).result = .ok data ↔
      config.checkCeiling .highest = .ok () ∧
        ∃ ciphertext,
          (Message.encryptWithPassword password nonce config message).result = .ok ciphertext ∧
          encode (.new (some config) nonce ciphertext) = .ok data := by
  unfold sealWithPassword
  simp only [Outcome.result_bind_eq_ok_iff, Outcome.result_lift]
  exact ⟨fun ⟨_, h⟩ => h, fun h => ⟨(), h⟩⟩

/-! ## Opening -/

/-- What is opened is what a well-formed envelope holds, and the file is that envelope's encoding. -/
theorem result_openWith_eq_ok_iff {secret : Secret} {opened : Option (List UInt8)} :
    (openWith secret data).result = .ok opened ↔
      ∃ e : Envelope, (e.WellFormed ∧ encode e = .ok data) ∧
        (decrypt e secret).result = .ok opened := by
  unfold openWith
  simp only [Outcome.result_bind_eq_ok_iff, Outcome.result_lift, decode_eq_ok_iff,
    Outcome.result_report, Outcome.result_pure]
  constructor
  · rintro ⟨e, he, answer, hanswer, -, -, hreturn⟩
    cases hreturn
    exact ⟨e, he, hanswer⟩
  · rintro ⟨e, he, hopened⟩
    exact ⟨e, he, opened, hopened, (), trivial, rfl⟩

/-- A key opens envelopes that were sealed under a key. -/
theorem result_decrypt_key_eq_ok_iff {e : Envelope} {key : Key} {opened : Option (List UInt8)} :
    (decrypt e (.key key)).result = .ok opened ↔
      e.kdf = none ∧ (Message.decrypt key e.nonce e.ciphertext).result = .ok opened := by
  simp only [decrypt]
  cases hkdf : e.kdf with
  | none => simp
  | some c =>
    -- A key for a file under a password is refused before anything is decrypted.
    constructor
    · intro h
      cases h
    · intro h
      cases h.1

/-- A password opens envelopes that were sealed under a password, at a cost below the ceiling. -/
theorem result_decrypt_password_eq_ok_iff {e : Envelope} {password : String}
    {opened : Option (List UInt8)} :
    (decrypt e (.password password)).result = .ok opened ↔
      ∃ c, e.kdf = some c ∧ c.checkCeiling .highest = .ok () ∧
        (Message.decryptWithPassword password e.nonce c e.ciphertext).result = .ok opened := by
  simp only [decrypt]
  cases hkdf : e.kdf with
  | none =>
    constructor
    · intro h
      cases h
    · rintro ⟨c, h, -⟩
      cases h
  | some c =>
    simp only [Outcome.result_bind_eq_ok_iff, Outcome.result_lift, Option.some.injEq,
      exists_eq_left']
    exact ⟨fun ⟨_, h⟩ => h, fun h => ⟨(), h⟩⟩

/-! ## The inverse -/

theorem wellFormed_new {kdf : Option Config} {nonce : Nonce} {ciphertext : List UInt8}
    (hkdf : ∀ c ∈ kdf, c.Valid) (hlen : ciphertext.length = message.length + Message.tagLength) :
    (Envelope.new kdf nonce ciphertext).WellFormed := by
  refine ⟨rfl, hkdf, ?_⟩
  show Message.tagLength ≤ ciphertext.length
  rw [hlen]
  exact Nat.le_add_left ..

/-- A file is opened with a key to a message exactly if it seals the message under that key. -/
theorem result_openWith_key_eq_some_iff {key : Key} :
    (openWith (.key key) data).result = .ok (some message) ↔
      ∃ nonce, (sealWithKey nonce key message).result = .ok data := by
  simp only [result_openWith_eq_ok_iff, result_decrypt_key_eq_ok_iff,
    Message.result_decrypt_eq_some_iff, result_sealWithKey_eq_ok_iff]
  constructor
  · rintro ⟨⟨version, kdf, nonce, ciphertext⟩, ⟨⟨rfl, -, -⟩, hdata⟩, rfl, hencrypt⟩
    exact ⟨nonce, ciphertext, hencrypt, hdata⟩
  · rintro ⟨nonce, ciphertext, hencrypt, hdata⟩
    -- What was encrypted has room for its tag, which makes the envelope well formed.
    have hlen := Message.length_of_encrypt key nonce hencrypt
    exact ⟨_, ⟨wellFormed_new (by simp) hlen, hdata⟩, rfl, hencrypt⟩

/-- A file is opened with a password to a message exactly if it seals the message under that
password, at a valid cost that does not exceed the ceiling. -/
theorem result_openWith_password_eq_some_iff {password : String} :
    (openWith (.password password) data).result = .ok (some message) ↔
      ∃ nonce config, Config.Valid config ∧
        (sealWithPassword nonce password config message).result = .ok data := by
  simp only [result_openWith_eq_ok_iff, result_decrypt_password_eq_ok_iff,
    Message.result_decryptWithPassword_eq_some_iff, result_sealWithPassword_eq_ok_iff]
  constructor
  · rintro ⟨⟨version, kdf, nonce, ciphertext⟩, ⟨⟨rfl, hvalid, -⟩, hdata⟩, c, rfl, hceiling, hencrypt⟩
    exact ⟨nonce, c, hvalid c rfl, hceiling, ciphertext, hencrypt, hdata⟩
  · rintro ⟨nonce, config, hvalid, hceiling, ciphertext, hencrypt, hdata⟩
    have hlen := Message.length_of_encryptWithPassword password nonce config hencrypt
    -- The configuration is written only if it is valid, so the header gives the same one back.
    have hkdf : ∀ c ∈ some config, c.Valid := by
      rintro c ⟨⟩
      exact hvalid
    exact ⟨_, ⟨wellFormed_new hkdf hlen, hdata⟩, config, rfl, hceiling, hencrypt⟩

/-- Opening is the inverse of sealing: a file is opened to a message exactly if it is a seal of the
message under the same secret, for some nonce and, under a password, for some configuration that
callers can come by and that does not exceed the ceiling. -/
theorem openWith_inverse_seal (data message : List UInt8) :
    (∀ key, (openWith (.key key) data).result = .ok (some message) ↔
      ∃ nonce, (sealWithKey nonce key message).result = .ok data) ∧
    (∀ password, (openWith (.password password) data).result = .ok (some message) ↔
      ∃ nonce config, Config.Obtainable config ∧ config.checkCeiling .highest = .ok () ∧
        (sealWithPassword nonce password config message).result = .ok data) := by
  constructor
  · intro key
    exact result_openWith_key_eq_some_iff
  · intro password
    rw [result_openWith_password_eq_some_iff]
    -- The valid configurations are those that callers can come by.
    constructor
    · rintro ⟨nonce, config, hvalid, hseal⟩
      have hceiling := (result_sealWithPassword_eq_ok_iff.mp hseal).1
      exact ⟨nonce, config, Config.obtainable_iff_valid.mpr hvalid, hceiling, hseal⟩
    · rintro ⟨nonce, config, hobtainable, -, hseal⟩
      exact ⟨nonce, config, Config.obtainable_iff_valid.mp hobtainable, hseal⟩

end Sealing.SealedFile
