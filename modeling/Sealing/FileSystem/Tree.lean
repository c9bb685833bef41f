import Sealing.FileSystem.Branch
/-!
# Directory trees

A tree gives each location its entry.  A location is the names on the way from an entry up to the
root, innermost first, so that the parent of a location is its tail.  The root is always a
directory.  A position is a location together with what stands there and on the way to it, so that a
step down or up looks at no more than one directory.
-/

namespace Sealing.FileSystem

/-- The names from an entry up to the root, innermost first. -/
abbrev Location := List String

structure Tree where
  children : List (String × Branch) := []

namespace Tree

def root (t : Tree) : Branch := ⟨some .directory, t.children⟩

def find? (t : Tree) (l : Location) : Option Entry :=
  (t.root.along l.reverse).entry

def erase (t : Tree) (l : Location) : Tree :=
  ⟨(t.root.set none l.reverse).children⟩

/-- The tree with an entry put at a location, in place of what stood there. -/
def insert (t : Tree) (l : Location) (e : Entry) : Tree :=
  ⟨(t.root.set (some e) l.reverse).children⟩

/-! ## Looking up -/

/-- What is set below the root leaves the root as it is. -/
private theorem root_mk_set (t : Tree) (entry : Option Entry) {names : List String}
    (h : names ≠ []) :
    root ⟨(t.root.set entry names).children⟩ = t.root.set entry names := by
  cases names with
  | nil => exact absurd rfl h
  | cons name names => rfl

private theorem find?_mk_set_of_ne (t : Tree) (entry : Option Entry) {k l : Location}
    (h : k ≠ l) : find? ⟨(t.root.set entry l.reverse).children⟩ k = t.find? k := by
  by_cases hl : l = []
  · subst hl
    rfl
  · unfold find?
    rw [root_mk_set t entry (by simpa using hl)]
    exact t.root.entry_along_set_of_ne entry fun hr => h (List.reverse_inj.mp hr)

private theorem find?_mk_set_self (t : Tree) (entry : Option Entry) {l : Location} (h : l ≠ []) :
    find? ⟨(t.root.set entry l.reverse).children⟩ l = entry := by
  unfold find?
  rw [root_mk_set t entry (by simpa using h)]
  exact t.root.entry_along_set_self entry _

@[simp] theorem find?_nil (t : Tree) : t.find? [] = some .directory := rfl

theorem find?_erase_of_ne (t : Tree) {k l : Location} (h : k ≠ l) :
    (t.erase l).find? k = t.find? k :=
  t.find?_mk_set_of_ne none h

theorem find?_erase_self (t : Tree) {l : Location} (h : l ≠ []) : (t.erase l).find? l = none :=
  t.find?_mk_set_self none h

theorem find?_insert_of_ne (t : Tree) {k l : Location} (e : Entry) (h : k ≠ l) :
    (t.insert l e).find? k = t.find? k :=
  t.find?_mk_set_of_ne (some e) h

theorem find?_insert_self (t : Tree) {l : Location} (e : Entry) (h : l ≠ []) :
    (t.insert l e).find? l = some e :=
  t.find?_mk_set_self (some e) h

/-! ## Listing -/

/-- All entries below a directory, each directory before what it holds, the names within each in the
order of their code points. -/
def listing (t : Tree) (directory : Location) : List (List String × Entry) :=
  (Branch.childEntries (t.root.along directory.reverse).children).mergeSort fun a b =>
    !decide (b.1 < a.1)

end Tree

/-! ## Positions -/

/-- A location in a tree, with what stands there. -/
structure Position where
  branch : Branch
  /-- The names on the way up to the root, each with the branch that it leads out of. -/
  way : List (String × Branch)

namespace Position

def location (p : Position) : Location := p.way.map Prod.fst

def isDirectory (p : Position) : Bool :=
  match p.branch.entry with
  | some .directory => true
  | _ => false

/-- A step to a name. -/
def down (p : Position) (name : String) : Position :=
  ⟨p.branch.child name, (name, p.branch) :: p.way⟩

/-- A step to the parent, which at the root stays. -/
def up (p : Position) : Position :=
  match p.way with
  | [] => p
  | (_, parent) :: way => ⟨parent, way⟩

@[simp] theorem location_down (p : Position) (name : String) :
    (p.down name).location = name :: p.location := rfl

end Position

namespace Tree

def position (t : Tree) : Location → Position
  | [] => ⟨t.root, []⟩
  | name :: parent => (t.position parent).down name

@[simp] theorem location_position (t : Tree) (l : Location) : (t.position l).location = l := by
  induction l with
  | nil => rfl
  | cons name parent ih => rw [position, Position.location_down, ih]

theorem up_position (t : Tree) (l : Location) : (t.position l).up = t.position l.tail := by
  cases l with
  | nil => rfl
  | cons name parent => rfl

theorem entry_position (t : Tree) (l : Location) : (t.position l).branch.entry = t.find? l := by
  suffices h : (t.position l).branch = t.root.along l.reverse by rw [h, find?]
  induction l with
  | nil => rfl
  | cons name parent ih =>
    rw [List.reverse_cons, Branch.along_append, ← ih]
    rfl

end Tree

end Sealing.FileSystem
