import Sealing.Proofs.Storage.Directories
import Sealing.Proofs.Storage.Ends
/-!
# What a save leaves

A save makes the directory of its path, writes a new file there and moves it over the path.  In a
world, where no call fails but for a reason in the tree, it fails and everything that stood there
still stands, or the tree is the one with the directories made and the content where the path leads
then (`save_cases`).
-/

namespace Sealing.Storage

open FileSystem Tree

variable {path : Path} {content : List UInt8} {w w' : World} {result : Except Error Unit}

/-- Nothing is lost and the new file is gone again, or it stands where the path leads. -/
theorem publish_cases {name : String} {random : FixedBytes 8} (hname : path.fileName? = some name)
    (h : Task.exec (publish (temporaryPath path name random) path content) w = (result, w')) :
    (∃ e, result = .error e ∧ KeepsAll w.tree w'.tree) ∨
      ∃ k, Names w.tree w.working path k ∧ w.tree.find? k ≠ some .directory ∧
        Sets w.tree k (.file content fileMode) w'.tree ∧
        ((∀ d, w.tree.find? k = some d → d.isFile = true) → result = .ok ()) := by
  have hrun := Task.runs_exec (publish (temporaryPath path name random) path content) w
  rw [h] at hrun
  cases publish_ends hname hrun with
  | refused failed same =>
    obtain ⟨e, he⟩ := failed
    exact .inl ⟨e, he, fun l d hd _ => (same l).trans hd⟩
  | leftBehind failed beside vacant file cause =>
    obtain ⟨r, hfault, -⟩ := cause
    exact hfault.elim
  | placed named free file settled =>
    refine .inr ⟨_, named, free, file, fun hfile => ?_⟩
    rcases settled with hok | ⟨-, hfault | ⟨k, target, hk, hlink, -⟩⟩
    · exact hok
    · exact hfault.elim
    · obtain rfl := hk.unique named
      have hno := hfile _ hlink
      cases hno

/-- A save keeps all that stands there and fails, or it puts the content where the path leads once
the directories are made and changes nothing else.  What can fail after that is to find the
directory once more, for a link that was replaced may have led to it. -/
theorem save_cases (h : Task.exec (save ⟨path⟩ content) w = (result, w')) :
    (∃ e, result = .error e ∧ KeepsAll w.tree w'.tree) ∨
      ∃ made k, Task.exec (makeDirectories path.directory) w = (.ok (), { w with tree := made }) ∧
        KeepsAll w.tree made ∧ Names made w.working path k ∧ made.find? k ≠ some .directory ∧
        Sets made k (.file content fileMode) w'.tree ∧
        ((∀ d, made.find? k = some d → d.isFile = true) → result = .ok ()) := by
  obtain ⟨first, made, hkeep, hmade⟩ :=
    makeDirectories_growsTree path.directory w.tree w.working
  have hmade := hmade w rfl rfl
  rw [save_eq, Task.exec_bind, hmade] at h
  cases first with
  | error e =>
    cases h
    exact .inl ⟨e, rfl, hkeep⟩
  | ok _ =>
    simp only at h
    rw [Task.exec_bind, Task.exec_ofResult] at h
    cases hname : targetName path with
    | error e =>
      rw [hname] at h
      cases h
      exact .inl ⟨e, rfl, hkeep⟩
    | ok name =>
      rw [hname] at h
      simp only at h
      rw [Task.exec_bind, Task.exec_random] at h
      rcases publish_cases (fileName?_of_targetName hname) h with
        ⟨e, he, hkept⟩ | ⟨k, hk, hdir, hset, hok⟩
      · exact .inl ⟨e, he, hkeep.trans hkept⟩
      · exact .inr ⟨made, k, hmade, hkeep, hk, hdir, hset, hok⟩

end Sealing.Storage
