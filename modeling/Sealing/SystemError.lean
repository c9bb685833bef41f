import Sealing.Text.Quoted
/-!
# Failures of the operating system

A call to the system can be refused by the kernel, with one of its numbered codes, or fail before
or after the kernel is asked.  `SystemError.message` is the text that users see.
-/

namespace Sealing

/-- The refusals of the kernel that calls on files can meet. -/
inductive Refusal where
  /-- No entry has the name. -/
  | noEntry
  /-- The device or directory is in use. -/
  | busy
  /-- An entry has the name already. -/
  | alreadyExists
  /-- Something other than a directory stands where a directory is needed. -/
  | notDirectory
  /-- A directory stands where a file is needed. -/
  | isDirectory
  /-- A name or a path is longer than the system takes. -/
  | nameTooLong
  /-- Too many symbolic links were met on the way. -/
  | tooManyLinks
  /-- Any other code, with the system's own text for it. -/
  | other (code : Nat) (text : String)
deriving DecidableEq, Repr

namespace Refusal

def code : Refusal → Nat
  | noEntry => 2
  | busy => 16
  | alreadyExists => 17
  | notDirectory => 20
  | isDirectory => 21
  | nameTooLong => 36
  | tooManyLinks => 40
  | other code _ => code

def text : Refusal → String
  | noEntry => "No such file or directory"
  | busy => "Device or resource busy"
  | alreadyExists => "File exists"
  | notDirectory => "Not a directory"
  | isDirectory => "Is a directory"
  | nameTooLong => "File name too long"
  | tooManyLinks => "Too many levels of symbolic links"
  | other _ text => text

/-- The class of the code, as diagnostic text names it. -/
def kind : Refusal → String
  | noEntry => "NotFound"
  | busy => "ResourceBusy"
  | alreadyExists => "AlreadyExists"
  | notDirectory => "NotADirectory"
  | isDirectory => "IsADirectory"
  | nameTooLong => "InvalidFilename"
  | tooManyLinks => "FilesystemLoop"
  | other _ _ => "Uncategorized"

/-- The refusal with a number; the text is kept where the number has no name here. -/
def ofCode (code : Nat) (text : String) : Refusal :=
  match code with
  | 2 => noEntry
  | 16 => busy
  | 17 => alreadyExists
  | 20 => notDirectory
  | 21 => isDirectory
  | 36 => nameTooLong
  | 40 => tooManyLinks
  | _ => other code text

end Refusal

inductive SystemError where
  /-- The kernel refused the call. -/
  | refused (by_ : Refusal)
  /-- A path holds the character NUL, which no file name can hold. -/
  | nulInPath
  /-- The system stopped taking bytes before all were written. -/
  | shortWrite
  /-- Text was expected where the bytes are not UTF-8. -/
  | invalidText
  /-- A failure that is known by its text alone. -/
  | custom (text : String)
deriving DecidableEq, Repr

namespace SystemError

def message : SystemError → String
  | refused r => r.text ++ " (os error " ++ toString r.code ++ ")"
  | nulInPath => "file name contained an unexpected NUL byte"
  | shortWrite => "failed to write whole buffer"
  | invalidText => "stream did not contain valid UTF-8"
  | custom text => text

def describe : SystemError → String
  | refused r =>
    Text.record "Os"
      [("code", toString r.code), ("kind", r.kind), ("message", Text.quoted r.text)]
  | nulInPath => noticed "InvalidInput" nulInPath.message
  | shortWrite => noticed "WriteZero" shortWrite.message
  | invalidText => noticed "InvalidData" invalidText.message
  | custom text => Text.record "Custom" [("kind", "Other"), ("error", Text.quoted text)]
where
  noticed (kind text : String) : String :=
    Text.record "Error" [("kind", kind), ("message", Text.quoted text)]

end SystemError

end Sealing
