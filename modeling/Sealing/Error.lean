import Sealing.SystemError
/-!
# Errors

What can go wrong, as causes.  A message that does not authenticate is no error: reading it answers
with nothing.  `Error.message` is the one place that words them for users, `Error.describe` the one
that shows them for diagnosis.
-/

namespace Sealing

/-- The failures of the library. -/
inductive Error where
  /-- A value has a fixed length and came with another one. -/
  | invalidLength (what : String) (expected actual : Nat)
  /-- An argument that the operation cannot take. -/
  | invalidInput (reason : String)
  /-- A cost limit outside its range. -/
  | invalidLimit (what : String) (value min max : Nat)
  /-- The salt is to be longer than the nonce that it is taken from. -/
  | saltTooLong (saltLength nonceLength : Nat)
  /-- A cryptographic operation refused its arguments. -/
  | backend (operation reason : String)
  | malformed (reason : String)
  | io (cause : SystemError)
deriving DecidableEq, Repr

namespace Error

/-- The text that users see. -/
def message : Error → String
  | invalidLength what expected actual =>
    s!"{what} must be {expected} bytes, got {actual}"
  | invalidInput reason => s!"invalid input: {reason}"
  | invalidLimit what value min max =>
    s!"{what} must be between {min} and {max}, got {value}"
  | saltTooLong saltLength nonceLength =>
    s!"salt length {saltLength} exceeds nonce length {nonceLength}"
  | backend operation reason => s!"{operation} failed: {reason}"
  | malformed reason => s!"malformed sealed file: {reason}"
  | io cause => s!"I/O error: {cause.message}"

def describe : Error → String
  | invalidLength what expected actual =>
    Text.record "InvalidLength" [("what", Text.quoted what), ("expected", toString expected),
      ("actual", toString actual)]
  | invalidInput reason => Text.applied "InvalidInput" (Text.quoted reason)
  | invalidLimit what value min max =>
    Text.record "InvalidLimit" [("what", Text.quoted what), ("value", toString value),
      ("min", toString min), ("max", toString max)]
  | saltTooLong saltLength nonceLength =>
    Text.record "SaltTooLong" [("salt_len", toString saltLength),
      ("nonce_len", toString nonceLength)]
  | backend operation reason =>
    Text.record "Backend" [("operation", Text.quoted operation), ("reason", Text.quoted reason)]
  | malformed reason => Text.applied "Malformed" (Text.quoted reason)
  | io cause => Text.applied "Io" cause.describe

/-- The failure that stands behind another one, if the system is to blame. -/
def cause? : Error → Option SystemError
  | io cause => some cause
  | _ => none

end Error

end Sealing
