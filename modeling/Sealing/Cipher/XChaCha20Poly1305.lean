import Sealing.Cipher.ChaCha20
import Sealing.Cipher.Poly1305
import Sealing.Key
import Sealing.Nonce
/-!
# XChaCha20-Poly1305

Authenticated encryption without associated data.  A message becomes a body of its own length and a
tag; the body is read back only if the tag is the one that belongs to it.
-/

namespace Sealing

abbrev Tag := FixedBytes 16

namespace Cipher

/-- Messages of this many bytes or more are refused, in both directions: the block counter of the
keystream would run out. -/
def messageBound : Nat := 64 * 0xffffffff

/-- The keystream of a message of the given length.  Block 0 is kept for the authenticator. -/
def keystream (key : Key) (nonce : Nonce) (length : Nat) : List UInt8 :=
  ChaCha20.keystream (ChaCha20.extendedBlocks key.toList nonce.toList) 1 length

@[simp] theorem length_keystream (key : Key) (nonce : Nonce) (length : Nat) :
    (keystream key nonce length).length = length :=
  ChaCha20.length_keystream (ChaCha20.length_extendedBlocks _ _) 1 length

/-- Encrypts a message or decrypts a body. -/
def applyKeystream (key : Key) (nonce : Nonce) (bytes : List UInt8) : List UInt8 :=
  ChaCha20.combine (keystream key nonce bytes.length) bytes

@[simp] theorem length_applyKeystream (key : Key) (nonce : Nonce) (bytes : List UInt8) :
    (applyKeystream key nonce bytes).length = bytes.length :=
  ChaCha20.length_combine (length_keystream ..)

@[simp] theorem applyKeystream_applyKeystream (key : Key) (nonce : Nonce) (bytes : List UInt8) :
    applyKeystream key nonce (applyKeystream key nonce bytes) = bytes := by
  have h : (applyKeystream key nonce bytes).length = bytes.length := length_applyKeystream ..
  unfold applyKeystream at h ⊢
  rw [h]
  exact ChaCha20.combine_combine (length_keystream ..)

/-- What the tag is computed from: the body, zeros up to a multiple of sixteen bytes, and the
lengths of the associated data, which is empty, and of the body. -/
def authenticated (body : List UInt8) : List UInt8 :=
  body ++ List.replicate ((16 - body.length % 16) % 16) 0
    ++ LittleEndian.encode 8 0 ++ LittleEndian.encode 8 body.length

def tag (key : Key) (nonce : Nonce) (body : List UInt8) : Tag :=
  let tagKey := (ChaCha20.extendedBlocks key.toList nonce.toList 0).take 32
  ⟨Poly1305.tag tagKey (authenticated body), Poly1305.length_tag ..⟩

/-- Encrypts a message to its body and tag, unless it is too long. -/
def lock? (key : Key) (nonce : Nonce) (message : List UInt8) : Option (List UInt8 × Tag) :=
  if message.length < messageBound then
    let body := applyKeystream key nonce message
    some (body, tag key nonce body)
  else none

/-- Decrypts a body whose tag is the one that belongs to it. -/
def unlock? (key : Key) (nonce : Nonce) (body : List UInt8) (received : Tag) :
    Option (List UInt8) :=
  if body.length < messageBound && tag key nonce body = received then
    some (applyKeystream key nonce body)
  else none

theorem length_of_lock? {key : Key} {nonce : Nonce} {message body : List UInt8} {t : Tag}
    (h : lock? key nonce message = some (body, t)) : body.length = message.length := by
  unfold lock? at h
  split at h
  · simp only [Option.some.injEq, Prod.mk.injEq] at h
    rw [← h.1, length_applyKeystream]
  · cases h

/-- A body and tag are read as a message exactly if they are its encryption. -/
theorem unlock?_eq_some_iff {key : Key} {nonce : Nonce} {message body : List UInt8} {t : Tag} :
    unlock? key nonce body t = some message ↔ lock? key nonce message = some (body, t) := by
  unfold unlock? lock?
  constructor
  · intro h
    split at h
    · rename_i hc
      simp only [Bool.and_eq_true, decide_eq_true_eq] at hc
      simp only [Option.some.injEq] at h
      subst h
      simp [hc.1, hc.2]
    · cases h
  · intro h
    split at h
    · rename_i hc
      simp only [Option.some.injEq, Prod.mk.injEq] at h
      obtain ⟨rfl, rfl⟩ := h
      simp [hc]
    · cases h

end Cipher

end Sealing
