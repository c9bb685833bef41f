import Sealing.Envelope
/-!
# Reports on sealed files

What can be told about a sealed file without its secret: the header, and how long the ciphertext is.
-/

namespace Sealing

/-- The public facts of a sealed file. -/
structure Report where
  version : UInt8
  /-- How the key comes from a password; nothing for a file sealed under a key. -/
  kdf : Option Kdf.Config
  nonce : Nonce
  ciphertextLength : Nat
deriving DecidableEq

namespace Report

def ofEnvelope (e : Envelope) : Report :=
  ⟨e.version, e.kdf, e.nonce, e.ciphertext.length⟩

def inspect (data : List UInt8) : Except Error Report :=
  ofEnvelope <$> Envelope.decode data

def toJson (r : Report) : Json :=
  .object [
    ("version", .integer r.version.toNat),
    ("kdf", (r.kdf.map Kdf.Config.toJson).getD .null),
    ("nonce", .array (r.nonce.toList.map fun b => .integer b.toNat)),
    ("ciphertext_len", .integer r.ciphertextLength)]

def describe (r : Report) : String :=
  Text.record "SealedInfo" [
    ("version", toString r.version),
    ("kdf", match r.kdf with
      | some c => Text.applied "Some" c.describe
      | none => "None"),
    ("nonce", Text.bracketed (r.nonce.toList.map toString)),
    ("ciphertext_len", toString r.ciphertextLength)]

end Report

end Sealing
