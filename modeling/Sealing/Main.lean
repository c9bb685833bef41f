import Sealing.CommandLine.Session
/-!
# The program on the real system

The calls of a program are made on the system that it runs on; arguments, environment and the
standard streams come from there.  What is done with them is decided by the program.
-/

namespace Sealing

open FileSystem (Path Kind)

/-- The system's failure as a program sees it. -/
def SystemError.ofIO : IO.Error → SystemError
  | .alreadyExists _ code text
  | .otherError code text
  | .resourceBusy code text
  | .resourceVanished code text
  | .unsupportedOperation code text
  | .hardwareFault code text
  | .unsatisfiedConstraints code text
  | .illegalOperation code text
  | .protocolError code text
  | .timeExpired code text
  | .interrupted _ code text
  | .noFileOrDirectory _ code text
  | .invalidArgument _ code text
  | .permissionDenied _ code text
  | .resourceExhausted _ code text
  | .inappropriateType _ code text
  | .noSuchThing _ code text => .refused (.ofCode code.toNat text)
  | .unexpectedEof => .custom "unexpected end of file"
  | .userError text => .custom text

namespace Machine

abbrev Handle := IO.FS.Handle

/-- An action with its failure as a reply. -/
def attempt {α : Type} (action : IO α) : BaseIO (Except SystemError α) :=
  return (← action.toBaseIO).mapError SystemError.ofIO

/-- What stands at a path.  A path goes on behind a directory only. -/
def kind (path : Path) : IO Kind := do
  let _ ← IO.FS.realPath path.text
  try
    let _ ← IO.FS.realPath (path.text ++ "/.")
    return .directory
  catch _ => return .file

def content (path : Path) : IO (List UInt8) := do
  let handle ← IO.FS.Handle.mk path.text .read
  return (← handle.readBinToEnd).data.toList

/-- The rights that three bits of a mode give. -/
def rights (bits : Nat) : IO.AccessRight :=
  { read := bits.testBit 2, write := bits.testBit 1, execution := bits.testBit 0 }

/-- Makes a file with the permissions of a mode; they hold before anything is in it. -/
def createNew (path : Path) (mode : Nat) : IO Handle := do
  let handle ← IO.FS.Handle.mk path.text .writeNew
  IO.setAccessRights path.text
    { user := rights (mode / 64), group := rights (mode / 8), other := rights mode }
  return handle

def draw (length : Nat) : IO (FixedBytes length) := do
  let bytes := (← IO.getRandomBytes length.toUSize).data.toList
  if h : bytes.length = length then return ⟨bytes, h⟩
  else throw (IO.userError "too few random bytes")

/-- Reads a byte at a time up to a line feed or the end of the input. -/
partial def readLine (input : IO.FS.Stream) (line : List UInt8) : IO (List UInt8) := do
  match (← input.read 1).data.toList with
  | [] => return line
  | b :: _ => if b = 10 then return line ++ [b] else readLine input (line ++ [b])

/-- Makes a call.  Only the events that the filter shows are told. -/
def answer (filter : Log.Filter) : (r : Request Handle) → BaseIO r.Reply
  | .stat path => attempt (kind path)
  | .read path => attempt (content path)
  | .makeDirectory path => attempt (IO.FS.createDir path.text)
  | .createNew path mode => attempt (createNew path mode)
  | .write handle bytes => attempt do
    handle.write ⟨bytes.toArray⟩
    return bytes.length
  | .settle handle => attempt handle.flush
  | .rename source target => attempt (IO.FS.rename source.text target.text)
  | .remove path => attempt (IO.FS.removeFile path.text)
  | .settleDirectory path => attempt do let _ ← kind path
  | .random length => return (← (draw length).toBaseIO).mapError toString
  | .inputLine => attempt do readLine (← IO.getStdin) []
  | .report event => do
    if filter.shows event then
      let _ ← (IO.eprintln event.line).toBaseIO

def run {α : Type} (filter : Log.Filter) : Program Handle α → BaseIO α
  | .done a => return a
  | .call r next => do run filter (next (← answer filter r))

def environment : BaseIO CommandLine.Environment :=
  return {
    password := ← IO.getEnv "SEALBOX_PASSWORD"
    keyFile := ← IO.getEnv "SEALBOX_KEY_FILE"
    log := ← IO.getEnv "SEALBOX_LOG" }

def session (arguments : List String) : IO CommandLine.Exit := do
  let env ← environment
  match CommandLine.parse env arguments with
  | .error interruption => return .ofInterruption interruption
  | .ok invocation =>
    let (filter, warnings) := CommandLine.logFilter env invocation.logLevel
    warnings.forM IO.eprintln
    return .ofResult (← run filter (invocation.command.program env).run)

end Machine

end Sealing

def main (arguments : List String) : IO UInt32 := do
  let exit ← Sealing.Machine.session arguments
  IO.print exit.output
  IO.eprint exit.errors
  return exit.code.toUInt32
