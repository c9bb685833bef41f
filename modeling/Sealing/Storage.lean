import Sealing.Program.World
/-!
# Files that are only ever replaced whole

`Storage.save` writes to a fresh file beside the target, makes it durable and moves it over the
target in one step, so that a reader sees the old content or the new one and never a part.  The file
can be read by its owner alone, for it may hold a key or a plaintext.
-/

namespace Sealing

open FileSystem

structure Storage where
  path : Path
deriving DecidableEq, Repr

namespace Storage

variable {Handle : Type}

def describe (s : Storage) : String :=
  Text.record "Storage" [("path", Text.quoted s.path.text)]

/-- The permissions of a saved file: its owner reads and writes it. -/
def fileMode : Nat := 0o600

/-- Whether something stands at the path, through symbolic links. -/
def isPresent (s : Storage) : Program Handle Bool := do
  match (← Program.request (.stat s.path) : Except SystemError Kind) with
  | .ok _ => return true
  | .error _ => return false

def load (s : Storage) : Task Handle Error (List UInt8) := do
  Task.orFail (← Task.request (.read s.path))

/-! ## Saving -/

/-- Refuses a path where no directory stands. -/
def expectDirectory (p : Path) (otherwise : SystemError) : Task Handle Error Unit := do
  match (← Task.request (.stat p) : Except SystemError Kind) with
  | .ok .directory => return ()
  | _ => throw (.io otherwise)

/-- Makes the first of some directories, each of which lies in the next one; those that are missing
are made first.  A directory that stands there already will do. -/
def makeNested : List Path → Task Handle Error Unit
  | [] => pure ()
  | p :: outer => do
    match (← Task.request (.makeDirectory p) : Except SystemError Unit) with
    | .ok () => return ()
    | .error (.refused .noEntry) =>
      makeNested outer
      match (← Task.request (.makeDirectory p) : Except SystemError Unit) with
      | .ok () => return ()
      | .error (.refused .alreadyExists) => expectDirectory p (.refused .alreadyExists)
      | .error e => throw (.io e)
    | .error (.refused .alreadyExists) => expectDirectory p (.refused .alreadyExists)
    | .error e => throw (.io e)

/-- Makes a directory and those that it lies in. -/
def makeDirectories (p : Path) : Task Handle Error Unit :=
  makeNested p.ancestors

/-- The name that a path gives to a file. -/
def targetName (path : Path) : Except Error String :=
  match path.fileName? with
  | some name => .ok name
  | none =>
    let text := path.text
    .error (.invalidInput s!"{text} does not name a file")

/-- A path for a temporary file beside a target of the given name. -/
def temporaryPath (path : Path) (name : String) (random : FixedBytes 8) : Path :=
  path.directory.join (name ++ ".tmp." ++ Text.hexBytes random.toList)

/-- Writes what of some bytes comes after those that were taken, in as many calls as it needs. -/
def writeRest (handle : Handle) : (taken : Nat) → List UInt8 → Task Handle Error Unit
  | _, [] => pure ()
  | taken + 1, _ :: rest => writeRest handle taken rest
  | 0, b :: rest => do
    match (← Task.request (.write handle (b :: rest)) : Except SystemError Nat) with
    | .error e => throw (.io e)
    | .ok 0 => throw (.io .shortWrite)
    | .ok (taken + 1) => writeRest handle taken rest

def writeAll (handle : Handle) (bytes : List UInt8) : Task Handle Error Unit :=
  writeRest handle 0 bytes

/-- Makes a new file with the given content, durably. -/
def writeNew (path : Path) (content : List UInt8) : Task Handle Error Unit := do
  let handle ← Task.orFail (← Task.request (.createNew path fileMode))
  writeAll handle content
  Task.orFail (← Task.request (.settle handle))

/-- Moves the temporary file over the target.  If that fails the temporary file is removed, and an
event tells if not even that can be done. -/
def replace (temporary path : Path) : Task Handle Error Unit := do
  match (← Task.request (.rename temporary path) : Except SystemError Unit) with
  | .ok () => return ()
  | .error e =>
    match (← Task.request (.remove temporary) : Except SystemError Unit) with
    | .ok () => pure ()
    | .error cleanup => Task.request (.report (.leftBehind temporary.text cleanup))
    throw (.io e)

/-- Replaces the file with the given content. -/
def save (s : Storage) (content : List UInt8) : Task Handle Error Unit := do
  let parent := s.path.directory
  makeDirectories parent
  let name ← ExceptT.mk (pure (targetName s.path))
  let temporary := temporaryPath s.path name (← Task.random 8)
  writeNew temporary content
  replace temporary s.path
  Task.orFail (← Task.request (.settleDirectory parent))
  Task.request (.report (.wrote s.path.text content.length))

end Storage

end Sealing
