import Sealing.Cipher.XChaCha20Poly1305
import Sealing.Outcome
/-!
# Encrypted messages

Encryption under a key and a nonce in two forms: the ciphertext with its tag behind it, or the two
apart.  Decryption answers with nothing when the ciphertext does not authenticate, and says no more
than that.
-/

namespace Sealing.Message

/-- A ciphertext and its tag kept apart. -/
structure Detached where
  ciphertext : List UInt8
  tag : Tag
deriving DecidableEq

def tagLength : Nat := 16

/-- What the cipher says when it refuses a message. -/
def refusal : String := "aead::Error"

/-- A ciphertext holds at least its tag. -/
def checkCombined (ciphertext : List UInt8) : Except Error Unit :=
  let length := ciphertext.length
  if length < tagLength then
    .error (.invalidInput
      s!"ciphertext is {length} bytes, shorter than the {tagLength}-byte tag")
  else .ok ()

/-- Encrypts a message to its ciphertext with the tag behind it. -/
def encrypt (key : Key) (nonce : Nonce) (message : List UInt8) : Outcome (List UInt8) := do
  match Cipher.lock? key nonce message with
  | none => throw (.backend "encryption" refusal)
  | some (body, tag) =>
    .report (.encrypted message.length)
    return body ++ tag.toList

/-- Decrypts a ciphertext that ends in its tag; nothing if it is not authentic. -/
def decrypt (key : Key) (nonce : Nonce) (ciphertext : List UInt8) :
    Outcome (Option (List UInt8)) := do
  checkCombined ciphertext
  let bodyLength := ciphertext.length - tagLength
  let tag ← FixedBytes.ofList 16 "mac" (ciphertext.drop bodyLength)
  match Cipher.unlock? key nonce (ciphertext.take bodyLength) tag with
  | some message =>
    .report (.decrypted message.length)
    return some message
  | none =>
    .report .authenticationFailed
    return none

/-- Encrypts a message to its ciphertext and tag. -/
def encryptDetached (key : Key) (nonce : Nonce) (message : List UInt8) : Outcome Detached := do
  match Cipher.lock? key nonce message with
  | none => throw (.backend "detached encryption" refusal)
  | some (body, tag) =>
    .report (.encryptedDetached message.length)
    return ⟨body, tag⟩

/-- Decrypts a ciphertext with the tag apart, which must have the length of one; nothing if the two
are not authentic. -/
def decryptDetached (key : Key) (nonce : Nonce) (ciphertext tag : List UInt8) :
    Outcome (Option (List UInt8)) := do
  let tag ← FixedBytes.ofList 16 "mac" tag
  match Cipher.unlock? key nonce ciphertext tag with
  | some message =>
    .report (.decryptedDetached message.length)
    return some message
  | none =>
    .report .authenticationFailed
    return none

end Sealing.Message
