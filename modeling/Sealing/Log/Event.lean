import Sealing.Kdf.Config
/-!
# Log events

What the library reports while it works.  An event holds public facts only: lengths, costs, outcomes
and paths.  `Event.line` is its text: level, message, fields.
-/

namespace Sealing.Log

/-- How much a reader wants to know; the later, the less. -/
inductive Level where
  | trace
  | debug
  | info
  | warn
  | error
deriving DecidableEq, Repr

namespace Level

def all : List Level := [trace, debug, info, warn, error]

/-- The place of a level among the others, the gravest highest. -/
def severity : Level → Nat
  | trace => 0
  | debug => 1
  | info => 2
  | warn => 3
  | error => 4

/-- The name of a level in a log line. -/
def name : Level → String
  | trace => "TRACE"
  | debug => "DEBUG"
  | info => "INFO"
  | warn => "WARN"
  | error => "ERROR"

end Level

/-- Something that happened. -/
inductive Event where
  /-- A message of `length` bytes was encrypted. -/
  | encrypted (length : Nat)
  /-- A ciphertext was authenticated and decrypted to `length` bytes. -/
  | decrypted (length : Nat)
  /-- As `encrypted`, with the tag apart. -/
  | encryptedDetached (length : Nat)
  /-- As `decrypted`, with the tag apart. -/
  | decryptedDetached (length : Nat)
  /-- A ciphertext did not authenticate. -/
  | authenticationFailed
  /-- A key was derived at some cost. -/
  | derivedKey (config : Kdf.Config)
  /-- A sealed file was opened, or found not to be authentic. -/
  | opened (authenticated : Bool)
  /-- A file of `length` bytes was written. -/
  | wrote (path : String) (length : Nat)
  /-- A temporary file could not be removed. -/
  | leftBehind (path : String) (cause : SystemError)
deriving DecidableEq, Repr

namespace Event

def level : Event → Level
  | encrypted _ | decrypted _ | encryptedDetached _ | decryptedDetached _ => .trace
  | authenticationFailed | derivedKey _ | opened _ | wrote .. => .debug
  | leftBehind .. => .warn

/-- The part of the library that reports an event; log filters name it. -/
def target : Event → String
  | encrypted _ | decrypted _ | encryptedDetached _ | decryptedDetached _
  | authenticationFailed => "sealbox::crypto::aead"
  | derivedKey _ => "sealbox::crypto::kdf"
  | opened _ => "sealbox"
  | wrote .. | leftBehind .. => "sealbox::storage"

def message : Event → String
  | encrypted _ => "encrypted message"
  | decrypted _ => "decrypted message"
  | encryptedDetached _ => "encrypted detached message"
  | decryptedDetached _ => "decrypted detached message"
  | authenticationFailed => "authentication failed"
  | derivedKey _ => "derived key from password"
  | opened _ => "opened sealed file"
  | wrote path _ => "wrote " ++ path
  | leftBehind path cause => "failed to remove " ++ path ++ ": " ++ cause.message

def fields : Event → List (String × String)
  | encrypted length | decrypted length | encryptedDetached length | decryptedDetached length
  | wrote _ length => [("len", toString length)]
  | derivedKey c =>
    [("algorithm", c.algorithm.name), ("ops_limit", toString c.opsLimit),
      ("mem_limit", toString c.memLimit)]
  | opened authenticated => [("authenticated", toString authenticated)]
  | authenticationFailed | leftBehind .. => []

/-- A character of a message: the signs that steer a terminal are shown instead of sent. -/
def shownChar (c : Char) : String :=
  if c = '\x1b' then "\\x1b"
  else if c = '\x07' then "\\x07"
  else if c = '\x08' then "\\x08"
  else if c = '\x0c' then "\\x0c"
  else if c = '\x7f' then "\\x7f"
  else if 0x80 ≤ c.toNat ∧ c.toNat ≤ 0x9f then
    "\\u\x7b" ++ Text.hexadecimal c.toNat ++ "\x7d"
  else c.toString

def line (event : Event) : String :=
  " ".intercalate <|
    event.level.name :: String.join (event.message.toList.map shownChar)
      :: event.fields.map fun f => f.1 ++ "=" ++ f.2

end Event

/-- The events at some level or above it, in order. -/
def atLeast (level : Level) (events : List Event) : List Event :=
  events.filter fun e => level.severity ≤ e.level.severity

end Sealing.Log
