import Sealing.Proofs.Envelope.Header
import Sealing.Proofs.Kdf.Derive
import Sealing.Proofs.SealedFile
/-!
# A password and the key derived from it

A password gives no other answers than the key that is derived from it.  Lengths are checked in front
of the derivation and behind it again, which makes no difference once the derivation succeeds
(`Outcome.result_check_first`), and under a valid configuration it does.  A file for a password is
opened as the file for a key that has the same nonce and the same ciphertext.
-/

namespace Sealing

/-- A check may be made in front of a step that succeeds and behind it again, or behind it only. -/
theorem Outcome.result_check_first {α β γ : Type} {x : Outcome β} {b : β} (hx : x.result = .ok b)
    (check : Except Error α) (f : β → α → Outcome γ) :
    ((liftM check : Outcome α) >>= fun _ =>
        x >>= fun b => (liftM check : Outcome α) >>= f b).result =
      ((liftM check : Outcome α) >>= f b).result := by
  cases check with
  | error e => rfl
  | ok a => rw [lift_ok_bind, result_bind, hx, Except.ok_bind]

namespace Message

variable {password : String} {nonce : Nonce} {config : Kdf.Config} {key : Key}

section
variable (hkey : (Kdf.deriveKey password nonce config).result = .ok key)
include hkey

theorem result_encryptWithPassword (message : List UInt8) :
    (encryptWithPassword password nonce config message).result =
      (encrypt key nonce message).result := by
  rw [encryptWithPassword, Outcome.result_bind, hkey, Except.ok_bind]

theorem result_encryptDetachedWithPassword (message : List UInt8) :
    (encryptDetachedWithPassword password nonce config message).result =
      (encryptDetached key nonce message).result := by
  rw [encryptDetachedWithPassword, Outcome.result_bind, hkey, Except.ok_bind]

theorem result_decryptWithPassword (ciphertext : List UInt8) :
    (decryptWithPassword password nonce config ciphertext).result =
      (decrypt key nonce ciphertext).result :=
  Outcome.result_check_first hkey (checkCombined ciphertext) _

theorem result_decryptDetachedWithPassword (ciphertext tag : List UInt8) :
    (decryptDetachedWithPassword password nonce config ciphertext tag).result =
      (decryptDetached key nonce ciphertext tag).result :=
  Outcome.result_check_first hkey (FixedBytes.ofList 16 "mac" tag) _

end

end Message

/-! ## A header for a key -/

namespace Envelope

/-- A file with its header made one for a key: the number of the algorithm and the limits are zero,
and everything else is as it was. -/
def underKey (data : List UInt8) : List UInt8 :=
  data.take 5 ++ List.replicate 17 0 ++ data.drop 22

namespace Fields

/-- The fields of a file whose header is made one for a key. -/
def underKey (f : Fields) : Fields :=
  { f with id := keyFileId, ops := .zero 8, mem := .zero 8 }

theorem bytes_underKey (f : Fields) : f.underKey.bytes = Envelope.underKey f.bytes := by
  rw [Envelope.underKey, f.take_front, f.drop_header, f.underKey.bytes_eq, List.append_assoc]
  rfl

theorem Holds.underKey {f : Fields} {e : Envelope} (h : f.Holds e) :
    f.underKey.Holds { e with kdf := none } := by
  obtain ⟨hmagic, hversion, -, he⟩ := h
  obtain ⟨version, kdf, nonce, ciphertext⟩ := e
  cases he
  refine ⟨hmagic, hversion, ⟨?_, ?_⟩, rfl⟩
  · intro c hc
    cases hc
  · rfl

end Fields

/-- With its header made one for a key, a file holds the same nonce and ciphertext. -/
theorem decode_underKey {data : List UInt8} {e : Envelope} (h : decode data = .ok e) :
    decode (underKey data) = .ok { e with kdf := none } := by
  obtain ⟨f, rfl⟩ := Fields.exists_bytes (length_of_decode h)
  rw [← f.bytes_underKey, decode_bytes_eq_ok_iff]
  exact (decode_bytes_eq_ok_iff.mp h).underKey

end Envelope

namespace SealedFile

open Envelope Kdf

theorem result_openWith_of_decode {data : List UInt8} {e : Envelope} (h : decode data = .ok e)
    (secret : Secret) : (openWith secret data).result = (decrypt e secret).result := by
  rw [openWith, h, Outcome.lift_ok_bind, Outcome.result_bind]
  cases (decrypt e secret).result with
  | error error => rfl
  | ok opened => rfl

/-- A cost that passes the check is decrypted with. -/
theorem result_decrypt_password {e : Envelope} {config : Config} (hkdf : e.kdf = some config)
    (hceiling : config.checkCeiling .highest = .ok ()) (password : String) :
    (decrypt e (.password password)).result =
      (Message.decryptWithPassword password e.nonce config e.ciphertext).result := by
  simp only [decrypt, hkdf, hceiling, Outcome.lift_ok_bind]

theorem result_openWith_password {data : List UInt8} {e : Envelope} {config : Config}
    {password : String} {key : Key} (he : decode data = .ok e) (hkdf : e.kdf = some config)
    (hceiling : config.checkCeiling .highest = .ok ())
    (hkey : (deriveKey password e.nonce config).result = .ok key) :
    (openWith (.password password) data).result =
      (openWith (.key key) (underKey data)).result :=
  calc (openWith (.password password) data).result
      = (decrypt e (.password password)).result := result_openWith_of_decode he _
    _ = (Message.decryptWithPassword password e.nonce config e.ciphertext).result :=
        result_decrypt_password hkdf hceiling password
    _ = (Message.decrypt key e.nonce e.ciphertext).result :=
        Message.result_decryptWithPassword hkey e.ciphertext
    _ = (decrypt { e with kdf := none } (.key key)).result := rfl
    _ = (openWith (.key key) (underKey data)).result :=
        (result_openWith_of_decode (decode_underKey he) _).symm

/-- Whatever is done under a password is done under the key that is derived from it, which every
password of fewer than `2 ^ 32` bytes has under every configuration that callers can come by.  The
four operations on messages give the same results.  A file for a password whose header opening
accepts gives the same result as that file with a header for a key, under the key for its nonce at
its cost. -/
theorem password_agrees_derivedKey :
    (∀ password nonce config, (passwordBytes password).length < 2 ^ 32 →
      Config.Obtainable config →
      ∃ key, (deriveKey password nonce config).result = .ok key ∧
        (∀ message, (Message.encryptWithPassword password nonce config message).result =
          (Message.encrypt key nonce message).result) ∧
        (∀ ciphertext, (Message.decryptWithPassword password nonce config ciphertext).result =
          (Message.decrypt key nonce ciphertext).result) ∧
        (∀ message, (Message.encryptDetachedWithPassword password nonce config message).result =
          (Message.encryptDetached key nonce message).result) ∧
        ∀ ciphertext tag,
          (Message.decryptDetachedWithPassword password nonce config ciphertext tag).result =
            (Message.decryptDetached key nonce ciphertext tag).result) ∧
    (∀ password data e config, (passwordBytes password).length < 2 ^ 32 →
      decode data = .ok e → e.kdf = some config → config.checkCeiling .highest = .ok () →
      ∃ key, (deriveKey password e.nonce config).result = .ok key ∧
        (openWith (.password password) data).result =
          (openWith (.key key) (data.take 5 ++ List.replicate 17 0 ++ data.drop 22)).result) := by
  constructor
  case left =>
    intro password nonce config hpassword hconfig
    have hvalid : config.Valid := Config.obtainable_iff_valid.mp hconfig
    obtain ⟨key, hderive⟩ := deriveKey_of_valid nonce hvalid hpassword
    have hkey : (deriveKey password nonce config).result = .ok key := by rw [hderive]
    exact ⟨key, hkey, Message.result_encryptWithPassword hkey,
      Message.result_decryptWithPassword hkey, Message.result_encryptDetachedWithPassword hkey,
      Message.result_decryptDetachedWithPassword hkey⟩
  case right =>
    intro password data e config hpassword he hkdf hceiling
    -- What a header is decoded to is valid.
    have hvalid : config.Valid := (decode_eq_ok_iff.mp he).1.2.1 config hkdf
    obtain ⟨key, hderive⟩ := deriveKey_of_valid e.nonce hvalid hpassword
    have hkey : (deriveKey password e.nonce config).result = .ok key := by rw [hderive]
    exact ⟨key, hkey, result_openWith_password he hkdf hceiling hkey⟩

end SealedFile

end Sealing
