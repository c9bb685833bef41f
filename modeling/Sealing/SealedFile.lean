import Sealing.Message.Password
import Sealing.Report
/-!
# Sealing and opening files

A sealed file holds all that is needed to open it again, apart from the secret.  The nonce of a seal
is an argument here; whoever seals draws it at random.
-/

namespace Sealing

/-- What a file is opened with. -/
inductive Secret where
  | key (key : Key)
  | password (password : String)

/-- The text for diagnosis, without the secret. -/
def Secret.describe : Secret → String
  | key k => Text.applied "Key" k.describe
  | password _ => Text.applied "Password" (Text.quoted "[REDACTED]")

namespace SealedFile

def sealWithKey (nonce : Nonce) (key : Key) (message : List UInt8) : Outcome (List UInt8) := do
  let ciphertext ← Message.encrypt key nonce message
  Envelope.encode (.new none nonce ciphertext)

/-- Seals a message under a password.  A cost that opening would refuse is refused here. -/
def sealWithPassword (nonce : Nonce) (password : String) (config : Kdf.Config)
    (message : List UInt8) : Outcome (List UInt8) := do
  config.checkCeiling .highest
  let ciphertext ← Message.encryptWithPassword password nonce config message
  Envelope.encode (.new (some config) nonce ciphertext)

/-- Decrypts the ciphertext of an envelope with the secret of the kind that it was sealed with. -/
def decrypt (e : Envelope) : Secret → Outcome (Option (List UInt8))
  | .key key =>
    match e.kdf with
    | none => Message.decrypt key e.nonce e.ciphertext
    | some _ => throw (.invalidInput "file was sealed with a password, not a key")
  | .password password =>
    match e.kdf with
    | none => throw (.invalidInput "file was sealed with a key, not a password")
    | some config => do
      config.checkCeiling .highest
      Message.decryptWithPassword password e.nonce config e.ciphertext

/-- Opens a sealed file; nothing if it is not authentic, be it for a wrong secret or because it was
changed. -/
def openWith (secret : Secret) (data : List UInt8) : Outcome (Option (List UInt8)) := do
  let envelope ← Envelope.decode data
  let opened ← decrypt envelope secret
  .report (.opened opened.isSome)
  return opened

end SealedFile

end Sealing
