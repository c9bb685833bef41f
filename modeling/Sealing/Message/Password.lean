import Sealing.Kdf.Derive
import Sealing.Message
/-!
# Messages under a password

Each operation derives the key for the message's nonce and goes on with it.  Lengths are checked
before the derivation, which is the costly part.
-/

namespace Sealing.Message

/-- `encrypt` under the key derived from a password. -/
def encryptWithPassword (password : String) (nonce : Nonce) (config : Kdf.Config)
    (message : List UInt8) : Outcome (List UInt8) := do
  let key ← Kdf.deriveKey password nonce config
  encrypt key nonce message

/-- `decrypt` under the key derived from a password. -/
def decryptWithPassword (password : String) (nonce : Nonce) (config : Kdf.Config)
    (ciphertext : List UInt8) : Outcome (Option (List UInt8)) := do
  checkCombined ciphertext
  let key ← Kdf.deriveKey password nonce config
  decrypt key nonce ciphertext

/-- `encryptDetached` under the key derived from a password. -/
def encryptDetachedWithPassword (password : String) (nonce : Nonce) (config : Kdf.Config)
    (message : List UInt8) : Outcome Detached := do
  let key ← Kdf.deriveKey password nonce config
  encryptDetached key nonce message

/-- `decryptDetached` under the key derived from a password. -/
def decryptDetachedWithPassword (password : String) (nonce : Nonce) (config : Kdf.Config)
    (ciphertext tag : List UInt8) : Outcome (Option (List UInt8)) := do
  let _ ← FixedBytes.ofList 16 "mac" tag
  let key ← Kdf.deriveKey password nonce config
  decryptDetached key nonce ciphertext tag

end Sealing.Message
