import Sealing.FileSystem.Resolve
/-!
# Calls on files

What each call of the kernel answers and what it makes of the tree.  A refused call leaves the tree
as it is.  Files are held open by their location.
-/

namespace Sealing.FileSystem

inductive Kind where
  | file
  | directory
deriving DecidableEq, Repr

/-- The location that a place names.  What names no entry of its own is refused with `otherwise`. -/
def Place.location (place : Place) (otherwise : Refusal) : Except SystemError Location :=
  match place.target with
  | .name n =>
    if nameMax < n.utf8ByteSize then .error (.refused .nameTooLong)
    else .ok (n :: place.directory)
  | _ => .error (.refused otherwise)

namespace Tree

variable (t : Tree) (working : Location)

/-- What the path leads to, through symbolic links. -/
def stat (p : Path) : Except SystemError Kind := do
  let l ← t.resolve working p
  match t.find? l with
  | some .directory => return .directory
  | some _ => return .file
  | none => throw (.refused .noEntry)

def read (p : Path) : Except SystemError (List UInt8) := do
  let l ← t.resolve working p
  match t.find? l with
  | some (.file content _) => return content
  | some .directory => throw (.refused .isDirectory)
  | _ => throw (.refused .noEntry)

/-- The location of the entry to be made at a path where nothing stands yet. -/
def vacancy (p : Path) : Except SystemError Location := do
  let l ← (← t.place working p).location .alreadyExists
  if (t.find? l).isSome then throw (.refused .alreadyExists)
  return l

def makeDirectory (p : Path) : Except SystemError Tree := do
  let l ← t.vacancy working p
  return t.insert l .directory

/-- Makes an empty file where nothing stands yet, not even a link. -/
def createNew (p : Path) (mode : Nat) : Except SystemError (Location × Tree) := do
  let l ← t.vacancy working p
  return (l, t.insert l (.file [] mode))

/-- Adds bytes to the end of an open file.  Bytes for a file whose location is gone are lost. -/
def append (l : Location) (bytes : List UInt8) : Tree :=
  match t.find? l with
  | some (.file content mode) => t.insert l (.file (content ++ bytes) mode)
  | _ => t

/-- Moves a file or a link to another path, in place of a file or a link that stands there.
Directories are not moved. -/
def rename (source target : Path) : Except SystemError Tree := do
  let sourcePlace ← t.place working source
  let targetPlace ← t.place working target
  if sourcePlace.target.isName = false ∨ targetPlace.target.isName = false then
    throw (.refused .busy)
  let l ← sourcePlace.location .busy
  match t.find? l with
  | none => throw (.refused .noEntry)
  | some .directory => throw (.refused .busy)
  | some entry =>
    let k ← targetPlace.location .busy
    if sourcePlace.slash ∨ targetPlace.slash then throw (.refused .notDirectory)
    if t.find? k = some .directory then throw (.refused .isDirectory)
    if k = l then return t
    return (t.erase l).insert k entry

def remove (p : Path) : Except SystemError Tree := do
  let place ← t.place working p
  let l ← place.location .isDirectory
  match t.find? l with
  | none => throw (.refused .noEntry)
  | some .directory => throw (.refused .isDirectory)
  | some _ =>
    if place.slash then throw (.refused .notDirectory)
    return t.erase l

end Tree

end Sealing.FileSystem
