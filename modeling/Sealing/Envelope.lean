import Sealing.Kdf.Config
import Sealing.Nonce
/-!
# The envelope of a sealed file

A sealed file is a header of 46 bytes followed by the ciphertext:

```text
magic (4) | version (1) | kdf (1) | ops limit (8) | mem limit (8) | nonce (24) | ciphertext (>= 16)
```

Numbers are little-endian.  The kdf byte is the number of the algorithm that derives the key from a
password, or zero for a file sealed under a key, whose limits are zero too.  `Envelope.encode` and
`Envelope.decode` are inverse to each other on well-formed envelopes: every accepted string of bytes
is the one encoding of what it decodes to.
-/

namespace Sealing

/-- What a sealed file holds. -/
structure Envelope where
  version : UInt8
  /-- How the key comes from a password; nothing for a file sealed under a key. -/
  kdf : Option Kdf.Config
  nonce : Nonce
  ciphertext : List UInt8
deriving DecidableEq

namespace Envelope

/-- The first bytes of every sealed file. -/
def magic : List UInt8 := [0x53, 0x4c, 0x42, 0x58]

/-- The version that is written. -/
def currentVersion : UInt8 := 1

/-- The kdf byte of a file sealed under a key. -/
def keyFileId : UInt8 := 0

/-- The length of the header in bytes. -/
def headerLength : Nat := 46

/-- The length of the shortest ciphertext, which is a tag alone. -/
def ciphertextMin : Nat := 16

/-- An envelope that a file can hold: of the current version, with a valid cost, and with a
ciphertext that has room for its tag. -/
def WellFormed (e : Envelope) : Prop :=
  e.version = currentVersion ∧ (∀ c ∈ e.kdf, c.Valid) ∧ ciphertextMin ≤ e.ciphertext.length

def new (kdf : Option Kdf.Config) (nonce : Nonce) (ciphertext : List UInt8) : Envelope :=
  ⟨currentVersion, kdf, nonce, ciphertext⟩

/-! ## Writing -/

/-- The header fields on deriving the key. -/
def encodeKdf : Option Kdf.Config → List UInt8
  | some c =>
    c.algorithm.id :: (LittleEndian.encode 8 c.opsLimit ++ LittleEndian.encode 8 c.memLimit)
  | none => keyFileId :: List.replicate 16 0

/-- The bytes of an envelope, if its version is known. -/
def encode (e : Envelope) : Except Error (List UInt8) :=
  if e.version = currentVersion then
    .ok (magic ++ [e.version] ++ encodeKdf e.kdf ++ e.nonce.toList ++ e.ciphertext)
  else
    let version := e.version
    .error (.malformed s!"unsupported version {version}")

/-! ## Reading -/

/-- The bytes from `start` on, `length` many, which must be within the file. -/
def field (data : List UInt8) (start length : Nat) : Except Error (List UInt8) :=
  if start + length ≤ data.length then .ok ((data.drop start).take length)
  else .error (.malformed "truncated integer field")

/-- The number that stands at `start` in eight bytes. -/
def numberField (data : List UInt8) (start : Nat) : Except Error Nat :=
  LittleEndian.decode <$> field data start 8

/-- The number that stands at `start` in one byte. -/
def byteField (data : List UInt8) (start : Nat) : Except Error UInt8 := do
  match ← field data start 1 with
  | [b] => return b
  | _ => throw (.malformed "truncated integer field")

/-- Reads the header fields on deriving the key. -/
def decodeKdf (id : UInt8) (opsLimit memLimit : Nat) : Except Error (Option Kdf.Config) :=
  if id = keyFileId then
    if opsLimit = 0 ∧ memLimit = 0 then .ok none
    else .error (.malformed "raw-key file carries KDF limits")
  else
    match Kdf.Algorithm.ofId? id with
    | none => .error (.malformed s!"unknown KDF id {id}")
    | some algorithm => some <$> Kdf.Config.new algorithm opsLimit memLimit

/-- Reads a file of the current version, whose magic and version have been checked. -/
def decodeCurrent (data : List UInt8) : Except Error Envelope := do
  if data.length < headerLength + ciphertextMin then
    throw (.malformed "file too short for v1")
  let id ← byteField data 5
  let opsLimit ← numberField data 6
  let memLimit ← numberField data 14
  let nonce ← Nonce.ofList (← field data 22 Nonce.length)
  let kdf ← decodeKdf id opsLimit memLimit
  return new kdf nonce (data.drop headerLength)

/-- Reads a sealed file. -/
def decode (data : List UInt8) : Except Error Envelope := do
  if data.length < magic.length + 1 then
    throw (.malformed "file too short")
  if data.take magic.length ≠ magic then
    throw (.malformed "invalid magic")
  let version ← byteField data magic.length
  if version = currentVersion then decodeCurrent data
  else throw (.malformed s!"unsupported version {version}")

end Envelope

end Sealing
