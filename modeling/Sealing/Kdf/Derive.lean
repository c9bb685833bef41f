import Sealing.Kdf.Config
import Sealing.Outcome
import Sealing.Key
import Sealing.Nonce
/-!
# Keys from passwords

The salt is the beginning of the message's nonce, so that whoever has the nonce and the password
derives the same key, and no salt is stored besides.
-/

namespace Sealing.Kdf

/-- The first `length` bytes of a nonce. -/
def salt (nonce : Nonce) (length : Nat) : Except Error (List UInt8) :=
  if length ≤ Nonce.length then .ok (nonce.toList.take length)
  else .error (.saltTooLong length Nonce.length)

/-- The bytes of a password: its characters in UTF-8. -/
def passwordBytes (password : String) : List UInt8 :=
  password.toUTF8.toList

/-- Derives the key of a password for one nonce, at the cost of the configuration. -/
def deriveKey (password : String) (nonce : Nonce) (config : Config) : Outcome Key := do
  let salt ← salt nonce config.algorithm.saltLength
  let parameters ← config.parameters
  match Argon2.derive config.algorithm.variant parameters (passwordBytes password) salt with
  | .error reason => throw (.backend "password hashing" reason)
  | .ok bytes =>
    .report (.derivedKey config)
    return ⟨bytes⟩

end Sealing.Kdf
