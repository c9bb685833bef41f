import Sealing.FileSystem.Path
import Sealing.FileSystem.Tree
import Sealing.SystemError
/-!
# From paths to locations

The kernel follows a path name by name.  Each step needs a directory; a dot stays, two dots go up,
and a symbolic link is replaced by its target.  `Tree.resolve` follows the whole path, `Tree.place`
all but the last name, for the calls that make, move or remove an entry.
-/

namespace Sealing.FileSystem

/-- The longest name in bytes. -/
def nameMax : Nat := 255

/-- Paths must be shorter than this many bytes. -/
def pathMax : Nat := 4096

/-- The symbolic links that may be met on the way. -/
def linkMax : Nat := 40

/-- A path as the kernel follows it: from the root or the working directory, along names that are
not empty, to an entry that must be a directory if a slash ends the path. -/
structure Route where
  absolute : Bool
  names : List String
  slash : Bool
deriving DecidableEq, Repr

namespace Route

def ofText (s : String) : Route where
  absolute := s.toList.head? = some '/'
  names := ((Path.segments s.toList).filter (· ≠ [])).map String.ofList
  slash := s.toList.getLast? = some '/'

/-- The route of a path that the kernel takes. -/
def ofPath (p : Path) : Except SystemError Route :=
  if p.text.toList.contains '\x00' then .error .nulInPath
  else if p.text = "" then .error (.refused .noEntry)
  else if pathMax ≤ p.text.utf8ByteSize then .error (.refused .nameTooLong)
  else .ok (ofText p.text)

/-- The names to follow: a slash at the end asks for a directory, as a dot behind it would. -/
def steps (r : Route) : List String :=
  if r.slash then r.names ++ ["."] else r.names

/-- Where the route begins. -/
def start (r : Route) (t : Tree) (working : Position) : Position :=
  if r.absolute then t.position [] else working

end Route

/-- The end of a path: what its last name asks for in the directory that the names before it lead
to. -/
inductive Target where
  | name (name : String)
  /-- A dot. -/
  | current
  /-- Two dots. -/
  | parent
  /-- There is no name at all. -/
  | root
deriving DecidableEq, Repr

def Target.ofName (n : String) : Target :=
  if n = "." then .current else if n = ".." then .parent else .name n

def Target.isName : Target → Bool
  | .name _ => true
  | _ => false

/-- A directory, the last name of a path, and whether a slash follows it. -/
structure Place where
  directory : Location
  target : Target
  slash : Bool
deriving DecidableEq, Repr

/-- Follows names from a position.  Where a symbolic link stands, `enter` goes on from the directory
that holds it, with its target and the names behind it. -/
def Position.walk (enter : Position → String → List String → Except Refusal Position)
    (here : Position) : List String → Except Refusal Position
  | [] => .ok here
  | n :: rest =>
    if !here.isDirectory then .error .notDirectory
    else if n = "." then here.walk enter rest
    else if n = ".." then here.up.walk enter rest
    else if nameMax < n.utf8ByteSize then .error .nameTooLong
    else
      let there := here.down n
      match there.branch.entry with
      | none => .error .noEntry
      | some (.link target) => enter here target rest
      | some _ => there.walk enter rest

namespace Tree

/-- Follows names from a position, meeting at most `links` symbolic links. -/
def walk (t : Tree) : (links : Nat) → Position → List String → Except Refusal Position
  | 0 => Position.walk fun _ _ _ => .error .tooManyLinks
  | links + 1 => Position.walk fun here target rest =>
    let route := Route.ofText target
    t.walk links (route.start t here) (route.steps ++ rest)

/-- The position that a route leads to, along names of its own choice. -/
def follow (t : Tree) (working : Location) (r : Route) (names : List String) :
    Except SystemError Position :=
  (t.walk linkMax (r.start t (t.position working)) names).mapError .refused

def resolve (t : Tree) (working : Location) (p : Path) : Except SystemError Location := do
  let route ← Route.ofPath p
  return (← t.follow working route route.steps).location

/-- The place that a path names, which need not hold anything. -/
def place (t : Tree) (working : Location) (p : Path) : Except SystemError Place := do
  let route ← Route.ofPath p
  match route.names.getLast? with
  | none => return ⟨[], .root, route.slash⟩
  | some last =>
    let directory ← t.follow working route route.names.dropLast
    if !directory.isDirectory then throw (.refused .notDirectory)
    return ⟨directory.location, .ofName last, route.slash⟩

end Tree

end Sealing.FileSystem
