import Sealing.Proofs.Storage.Ends
/-!
# What a save may change

Where only the tree makes calls fail, a save makes directories on the way to its target, and then
changes nothing or the target alone (`save_changes`).  Where calls fail for other reasons too, a save
that fails has left the target alone, unless all that was left to do was to make the directory of the
path durable (`save_failed`).  Both have one exception, a path that leads to a symbolic link through
that very link: the file takes the place of the link, and the way to it is gone.
-/

namespace Sealing.Storage

open FileSystem Tree

variable {faults : Request Location → Prop} {working : Location} {path : Path}
  {content : List UInt8} {start made now : Tree} {result : Except Error Unit}

/-- The content stands in a file of its owner at the entry that the path names, and no other entry
is a different one.  It is what is read at the path, unless the path was a way to itself; then
nothing is. -/
def Placed (working : Location) (path : Path) (content : List UInt8) (made now : Tree) : Prop :=
  ∃ l, made.Names working path l ∧ made.find? l ≠ some .directory ∧
    Sets made l (.file content fileMode) now ∧
    (now.read working path = .ok content ↔ ¬made.ThroughItself working path) ∧
    ∀ data, now.read working path = .ok data → data = content

theorem placed_of_sets {l : Location} (hl : made.Names working path l)
    (hfree : made.find? l ≠ some .directory) (hset : Sets made l (.file content fileMode) now) :
    Placed working path content made now :=
  ⟨l, hl, hfree, hset, read_eq_ok_iff_of_sets hl hfree hset,
    fun _ hread => (read_of_sets hl hset hread).2⟩

/-- A save that ends well in a world has placed its content. -/
theorem exists_placed_of_save {w w' : World}
    (h : Task.exec (save ⟨path⟩ content) w = (.ok (), w')) :
    ∃ made, w.tree.Extends w.working path.openings made ∧
      Placed w.working path content made w'.tree := by
  have hrun := Task.runs_exec (save ⟨path⟩ content) w
  rw [h] at hrun
  obtain ⟨made, hextends, hends⟩ := save_ends hrun
  refine ⟨made, hextends, ?_⟩
  cases hends with
  | refused failed same =>
    obtain ⟨e, he⟩ := failed
    cases he
  | leftBehind failed beside vacant file cause =>
    obtain ⟨e, he⟩ := failed
    cases he
  | placed named free file settled => exact placed_of_sets named free file

/-! ## Without faults -/

/-- A save without faults makes directories, each of which a beginning of the path leads to, and keeps
all else as it is.  Then it fails and has changed nothing more, or it places its content; that is
read there and the save ends well, unless the path led through the link that it names. -/
theorem save_changes
    (h : Task.Runs (fun _ => False) working (save ⟨path⟩ content) start now result) :
    ∃ made, start.Extends working path.openings made ∧
      ((∃ e, result = .error e) ∧ (∀ l, now.find? l = made.find? l) ∨
        Placed working path content made now ∧
          (result = .ok () ∨ (∃ e, result = .error e) ∧ made.ThroughItself working path)) := by
  obtain ⟨made, hextends, hends⟩ := save_ends h
  refine ⟨made, hextends, ?_⟩
  cases hends with
  | refused failed same => exact .inl ⟨failed, same⟩
  | leftBehind failed beside vacant file cause =>
    obtain ⟨r, hfault, -⟩ := cause
    exact hfault.elim
  | placed named free file settled =>
    refine .inr ⟨placed_of_sets named free file, ?_⟩
    rcases settled with hok | ⟨herror, hfault | hthrough⟩
    · exact .inl hok
    · exact hfault.elim
    · exact .inr ⟨herror, hthrough⟩

/-- A directory with nothing in it but a link to the directory itself. -/
def selfLinked : World where
  tree := ⟨[("x", ⟨some (.link "."), []⟩)]⟩
  working := []
  input := []
  random := fun _ => 0
  events := []

theorem save_changes_selfLinked :
    ∃ made, selfLinked.tree.Extends [] (Path.openings ⟨"x/d/out"⟩) made ∧
      ((∃ e, (Task.exec (save ⟨⟨"x/d/out"⟩⟩ [1]) selfLinked).1 = .error e) ∧
          (∀ l, (Task.exec (save ⟨⟨"x/d/out"⟩⟩ [1]) selfLinked).2.tree.find? l = made.find? l) ∨
        Placed [] ⟨"x/d/out"⟩ [1] made (Task.exec (save ⟨⟨"x/d/out"⟩⟩ [1]) selfLinked).2.tree ∧
          ((Task.exec (save ⟨⟨"x/d/out"⟩⟩ [1]) selfLinked).1 = .ok () ∨
            (∃ e, (Task.exec (save ⟨⟨"x/d/out"⟩⟩ [1]) selfLinked).1 = .error e) ∧
              made.ThroughItself [] ⟨"x/d/out"⟩)) :=
  save_changes (Task.runs_exec (save ⟨⟨"x/d/out"⟩⟩ [1]) selfLinked)

/-- The link is replaced by the file, and behind a file nothing can be found any more: what was saved
without an error is not read at its path. -/
theorem save_through_link :
    (Task.exec (save ⟨⟨"x/x"⟩⟩ [1]) selfLinked).1.isOk = true ∧
      ((Task.exec (save ⟨⟨"x/x"⟩⟩ [1]) selfLinked).2.tree.read [] ⟨"x/x"⟩).isOk = false := by
  decide +kernel

/-! ## With faults -/

/-- Where a save fails, whichever of its calls the system failed but for the removal of a file, it
has made directories on the way and then left everything as it was; or a call on the temporary file
failed, and all that can be new is at one place, which was vacant and is not the target; or the
content stands at the target already, and the directory of the path could not be made durable, for a
fault or since the path led there through the link that it names. -/
theorem save_failed {e : Error} (hremove : ∀ p, ¬faults (.remove p))
    (h : Task.Runs faults working (save ⟨path⟩ content) start now (.error e)) :
    ∃ made, start.Extends working path.openings made ∧
      ((∀ l, now.find? l = made.find? l) ∨
        (∃ r, faults r ∧ r.usesOpenFile = true) ∧
          (∃ l, ¬path.EndsIn l ∧ made.find? l = none ∧ ∀ k, k ≠ l → now.find? k = made.find? k) ∨
        Placed working path content made now ∧
          (faults (.settleDirectory path.directory) ∨ made.ThroughItself working path)) := by
  obtain ⟨made, hextends, hends⟩ := save_ends h
  refine ⟨made, hextends, ?_⟩
  cases hends with
  | refused failed same => exact .inl same
  | leftBehind failed beside vacant file cause =>
    obtain ⟨r, hfault, huses | ⟨p, rfl⟩⟩ := cause
    · exact .inr (.inl ⟨⟨r, hfault, huses⟩, _, beside, vacant, file.other⟩)
    · exact absurd hfault (hremove p)
  | placed named free file settled =>
    refine .inr (.inr ⟨placed_of_sets named free file, ?_⟩)
    rcases settled with hok | ⟨-, hcause⟩
    · cases hok
    · exact hcause

/-- A directory with a file in it. -/
def withTarget : World where
  tree := ⟨[("out", ⟨some (.file [9] 0o644), []⟩)]⟩
  working := []
  input := []
  random := fun _ => 0
  events := []

/-- A device that is at fault. -/
def inputOutput : SystemError := .refused (.other 5 "Input/output error")

/-- The system moves no files. -/
def failsMove : Request Location → Bool
  | .rename .. => true
  | _ => false

/-- A save over the file, where the system moves none. -/
def unmovedSave : Except Error Unit × World :=
  Program.runFailing failsMove inputOutput (save ⟨⟨"out"⟩⟩ [1]).run withTarget

/-- The temporary file is written and removed again, and the target is what it was. -/
theorem save_failed_failsMove :
    ∃ now e, Task.Runs (fun r => failsMove r = true) [] (save ⟨⟨"out"⟩⟩ [1]) withTarget.tree now
        (.error e) ∧ now.find? ["out"] = some (.file [9] 0o644) ∧
      ∃ made, withTarget.tree.Extends [] (Path.openings ⟨"out"⟩) made ∧
        ((∀ l, now.find? l = made.find? l) ∨
          (∃ r, failsMove r = true ∧ r.usesOpenFile = true) ∧
            (∃ l, ¬Path.EndsIn ⟨"out"⟩ l ∧ made.find? l = none ∧
              ∀ k, k ≠ l → now.find? k = made.find? k) ∨
          Placed [] ⟨"out"⟩ [1] made now ∧
            (failsMove (.settleDirectory (Path.directory ⟨"out"⟩)) = true ∨
              made.ThroughItself [] ⟨"out"⟩)) := by
  have hrun := Program.runs_runFailing failsMove inputOutput (save ⟨⟨"out"⟩⟩ [1]).run withTarget
  rw [← unmovedSave] at hrun
  have hkept : unmovedSave.2.tree.find? ["out"] = some (.file [9] 0o644) := by decide +kernel
  have hfailed : unmovedSave.1.isOk = false := by decide +kernel
  -- The run is not looked into any more.
  generalize unmovedSave = last at hrun hkept hfailed
  obtain ⟨result, w⟩ := last
  cases result with
  | ok u => cases hfailed
  | error e => exact ⟨w.tree, e, hrun, hkept, save_failed nofun hrun⟩

/-- The directory that the new file was put into cannot be found any more, so that the save fails,
and yet the link is gone and the file in its place. -/
theorem save_fails_through_link :
    selfLinked.tree.find? ["x"] = some (.link ".") ∧
      (Task.exec (save ⟨⟨"x/x/x"⟩⟩ [1]) selfLinked).1.isOk = false ∧
      (Task.exec (save ⟨⟨"x/x/x"⟩⟩ [1]) selfLinked).2.tree.find? ["x"] =
        some (.file [1] fileMode) := by
  decide +kernel

end Sealing.Storage
