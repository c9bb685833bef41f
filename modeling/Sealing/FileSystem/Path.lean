/-!
# Paths

A path is a text whose names stand between slashes.  Read as a sequence of components, empty names
and single dots do not count, except for a dot that a relative path begins with.  `Path.parent?` and
`Path.fileName?` split off the last component; the parent is the beginning of the same text.
-/

namespace Sealing.FileSystem

structure Path where
  text : String
deriving DecidableEq, Repr

/-- A part of a path. -/
inductive Component where
  /-- The slash that an absolute path begins with. -/
  | root
  /-- The dot that a relative path begins with. -/
  | current
  | parent
  | name (name : String)
deriving DecidableEq, Repr

namespace Path

/-- The texts between the slashes of a text, one more than there are slashes. -/
def segments : List Char → List (List Char)
  | [] => [[]]
  | c :: cs =>
    if c = '/' then [] :: segments cs
    else
      match segments cs with
      | s :: ss => (c :: s) :: ss
      | [] => [[c]]

def isAbsolute (p : Path) : Bool := p.text.toList.head? = some '/'

/-- The component that a segment is, if it counts. -/
def component? : List Char → Option Component
  | [] => none
  | ['.'] => none
  | ['.', '.'] => some .parent
  | s => some (.name (String.ofList s))

/-- The components among segments of which the first begins at `start`, each with its end. -/
def locatedFrom : (start : Nat) → List (List Char) → List (Component × Nat)
  | _, [] => []
  | start, s :: ss =>
    let rest := locatedFrom (start + s.length + 1) ss
    match component? s with
    | some c => (c, start + s.length) :: rest
    | none => rest

/-- The components of a path, each with the number of characters up to its end. -/
def located (p : Path) : List (Component × Nat) :=
  let segs := segments p.text.toList
  let rest := locatedFrom 0 segs
  if p.isAbsolute then (.root, 1) :: rest
  else if segs.head? = some ['.'] then (.current, 1) :: rest
  else rest

def components (p : Path) : List Component :=
  p.located.map Prod.fst

/-- The beginning of a path. -/
def upTo (p : Path) (length : Nat) : Path :=
  ⟨String.ofList (p.text.toList.take length)⟩

/-- The last component, if it is a name. -/
def fileName? (p : Path) : Option String :=
  match p.components.getLast? with
  | some (.name n) => some n
  | _ => none

/-- The path without its last component; the root and the empty path have no parent. -/
def parent? (p : Path) : Option Path :=
  match p.located.reverse with
  | [] => none
  | (.root, _) :: _ => none
  | [_] => some ⟨""⟩
  | _ :: (_, stop) :: _ => some (p.upTo stop)

/-- The directory that holds the last component: the parent, or the working directory where the
parent is empty or missing. -/
def directory (p : Path) : Path :=
  match p.parent? with
  | some q => if q.text = "" then ⟨"."⟩ else q
  | none => ⟨"."⟩

/-- The path itself and the paths that it begins with, the longest first, apart from the root and
the empty path. -/
def ancestors (p : Path) : List Path :=
  match p.located.reverse with
  | [] => []
  | last :: outer =>
    (if last.1 = .root then [] else [p])
      ++ (outer.filter (·.1 ≠ .root)).map fun c => p.upTo c.2

/-- A name below a path. -/
def join (p : Path) (name : String) : Path :=
  if p.text = "" ∨ p.text.toList.getLast? = some '/' then ⟨p.text ++ name⟩
  else ⟨p.text ++ "/" ++ name⟩

end Path

end Sealing.FileSystem
