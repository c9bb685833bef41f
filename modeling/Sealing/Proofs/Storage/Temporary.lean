import Sealing.Proofs.FileSystem.Join
import Sealing.Proofs.Storage.Ends
/-!
# Temporary files beside their target

A file is moved over another one in one step only within a directory.  The temporary file of a save
lies in the directory of its target, which is the one that the save makes and makes durable
(`save_calls`), under the name of the target with sixteen digits behind it that tell the random bytes
(`temporary_beside_target`).
-/

namespace Sealing

open FileSystem

namespace Storage

variable {Handle : Type} {path : Path} {name : String} {random random' : FixedBytes 8}

/-! ## The name -/

theorem component?_temporary (name : String) (random : FixedBytes 8) :
    Path.component? (name ++ ".tmp." ++ Text.hexBytes random.toList).toList =
      some (.name (name ++ ".tmp." ++ Text.hexBytes random.toList)) := by
  -- A letter is in it, so that it is no segment of dots alone.
  have hletter : 't' ∈ (name ++ ".tmp." ++ Text.hexBytes random.toList).toList := by
    rw [String.toList_append, String.toList_append]
    exact List.mem_append_left _ (List.mem_append_right _ (by decide))
  unfold Path.component?
  split
  · rename_i hempty
    rw [hempty] at hletter
    cases hletter
  · rename_i hdot
    rw [hdot] at hletter
    exact absurd hletter (by decide)
  · rename_i hdots
    rw [hdots] at hletter
    exact absurd hletter (by decide)
  · rw [String.ofList_toList]

theorem targetName_of_fileName? (h : path.fileName? = some name) : targetName path = .ok name := by
  unfold targetName
  rw [h]

theorem targetName_of_no_fileName (h : path.fileName? = none) :
    targetName path = .error (.invalidInput (path.text ++ " does not name a file")) := by
  unfold targetName
  rw [h]
  rfl

theorem parent?_temporaryPath (h : path.fileName? = some name) (random : FixedBytes 8) :
    (temporaryPath path name random).parent? = some path.directory :=
  path.parent?_join_directory (slash_not_mem_temporary h random) (component?_temporary name random)

theorem fileName?_temporaryPath (h : path.fileName? = some name) (random : FixedBytes 8) :
    (temporaryPath path name random).fileName? =
      some (name ++ ".tmp." ++ Text.hexBytes random.toList) :=
  Path.fileName?_join path.text_directory_ne (slash_not_mem_temporary h random)
    (component?_temporary name random)

/-- Other random bytes make another name. -/
theorem temporaryPath_inj (h : path.fileName? = some name)
    (hsame : (temporaryPath path name random).components =
      (temporaryPath path name random').components) : random = random' := by
  have hname : (temporaryPath path name random).fileName? =
      (temporaryPath path name random').fileName? := by
    unfold Path.fileName?
    rw [hsame]
  rw [fileName?_temporaryPath h, fileName?_temporaryPath h, Option.some.injEq] at hname
  have hdigits : (name ++ ".tmp.").toList ++ (Text.hexBytes random.toList).toList =
      (name ++ ".tmp.").toList ++ (Text.hexBytes random'.toList).toList := by
    rw [← String.toList_append, ← String.toList_append, hname]
  have hsuffix := String.toList_inj.mp (List.append_cancel_left hdigits)
  exact FixedBytes.toList_inj.mp (Text.hexBytes_inj hsuffix)

/-! ## The calls of a save -/

/-- The calls of a save: on the directories that it makes, on the temporary file, on the target, and
on the directory once more. -/
inductive SaveCall (path : Path) : Request Handle → Prop
  | makeDirectory {p : Path} (h : p ∈ path.directory.ancestors) : SaveCall path (.makeDirectory p)
  | stat {p : Path} (h : p ∈ path.directory.ancestors) : SaveCall path (.stat p)
  | random : SaveCall path (.random 8)
  | createNew {name : String} {random : FixedBytes 8} (h : path.fileName? = some name) :
      SaveCall path (.createNew (temporaryPath path name random) fileMode)
  | write (handle : Handle) (bytes : List UInt8) : SaveCall path (.write handle bytes)
  | settle (handle : Handle) : SaveCall path (.settle handle)
  | rename {name : String} {random : FixedBytes 8} (h : path.fileName? = some name) :
      SaveCall path (.rename (temporaryPath path name random) path)
  | remove {name : String} {random : FixedBytes 8} (h : path.fileName? = some name) :
      SaveCall path (.remove (temporaryPath path name random))
  | settleDirectory : SaveCall path (.settleDirectory path.directory)
  | report (event : Log.Event) : SaveCall path (.report event)

theorem writeRest_calls (handle : Handle) (taken : Nat) (bytes : List UInt8) :
    Task.Calls (SaveCall path) (writeRest handle taken bytes) := by
  induction bytes generalizing taken with
  | nil => cases taken <;> exact .pure ()
  | cons b rest ih =>
    cases taken with
    | succ taken => exact ih taken
    | zero =>
      refine .bind (.request (.write ..)) fun reply => ?_
      split
      · exact .throw _
      · exact .throw _
      · exact ih _

theorem writeNew_calls (hname : path.fileName? = some name) (content : List UInt8) :
    Task.Calls (SaveCall path)
      (writeNew (temporaryPath path name random) content : Task Handle Error Unit) := by
  refine .bind (.request (.createNew hname)) fun reply => ?_
  refine .bind (.ofResult _) fun handle => ?_
  apply (writeRest_calls handle 0 content).bind
  intro _
  refine .bind (.request (.settle handle)) fun settled => ?_
  exact .ofResult _

theorem replace_calls (hname : path.fileName? = some name) :
    Task.Calls (SaveCall path)
      (replace (temporaryPath path name random) path : Task Handle Error Unit) := by
  refine .bind (.request (.rename hname)) fun reply => ?_
  split
  · exact .pure ()
  · refine .bind (.request (.remove hname)) fun removed => ?_
    split
    · exact .throw _
    · exact Task.Calls.bind (.request (.report _)) fun _ => .throw _

/-- Whatever is replied to it, a save makes the directory of its target with those around it, works on
a temporary file and the target, and makes that directory durable. -/
theorem save_calls (path : Path) (content : List UInt8) :
    Task.Calls (SaveCall path) (save ⟨path⟩ content : Task Handle Error Unit) := by
  rw [save_eq]
  refine Task.Calls.bind (makeNested_calls fun p hp => ⟨.makeDirectory hp, .stat hp⟩) fun _ => ?_
  refine .ofResult_bind fun name hname => ?_
  refine Task.Calls.bind (.random .random) fun random => ?_
  apply (writeNew_calls (fileName?_of_targetName hname) content).bind
  intro _
  apply (replace_calls (fileName?_of_targetName hname)).bind
  intro _
  refine .bind (.request .settleDirectory) fun reply => ?_
  exact Task.Calls.bind (.ofResult _) fun _ => .request (.report _)

/-- The temporary file of a save lies beside its target.  Its path has for parent the directory that
the save makes and makes durable, which is the parent of the target, or the working directory where
that is empty or missing; its name is that of the target with sixteen digits behind it, never the name
of the target itself, and no two strings of random bytes give the same path.  A path that names no
file (one that is empty, a dot or the root, or ends with two dots) is refused. -/
theorem temporary_beside_target (path : Path) :
    (∀ name, path.fileName? = some name → targetName path = .ok name ∧ ∀ random : FixedBytes 8,
      (temporaryPath path name random).parent? = some path.directory ∧
      (∃ digits : String, digits.length = 16 ∧ (∀ c ∈ digits.toList, c ∈ Text.hexDigits) ∧
        (temporaryPath path name random).fileName? = some (name ++ ".tmp." ++ digits)) ∧
      (temporaryPath path name random).fileName? ≠ path.fileName? ∧
      ∀ random', (temporaryPath path name random).components =
        (temporaryPath path name random').components → random = random') ∧
    ((∀ q, path.parent? = some q → q.text ≠ "" → path.directory = q) ∧
      ((∀ q, path.parent? = some q → q.text = "") → path.directory = ⟨"."⟩)) ∧
    (∀ content, Task.Calls (SaveCall path) (save ⟨path⟩ content : Task Location Error Unit)) ∧
    (path.fileName? = none ↔ path.components = [] ∨ path.components = [.current] ∨
      path.components = [.root] ∨ path.components.getLast? = some .parent) ∧
    (path.fileName? = none →
      targetName path = .error (.invalidInput (path.text ++ " does not name a file"))) := by
  refine ⟨?beside, ?directory, ?calls, ?nameless, ?refused⟩
  case beside =>
    intro name hname
    refine ⟨targetName_of_fileName? hname, fun random => ⟨?_, ?_, ?_, ?_⟩⟩
    · exact parent?_temporaryPath hname random
    · refine ⟨Text.hexBytes random.toList, ?_, fun c => Text.mem_hexBytes, ?_⟩
      · rw [Text.length_hexBytes, random.length_toList]
      · exact fileName?_temporaryPath hname random
    · rw [fileName?_temporaryPath hname, hname]
      intro hsame
      exact temporary_ne name random (Option.some.inj hsame)
    · intro random'
      exact temporaryPath_inj hname
  case directory =>
    constructor
    · intro q hq hne
      simp only [Path.directory, hq, if_neg hne]
    · intro hempty
      unfold Path.directory
      split
      · rename_i q hq
        rw [if_pos (hempty q hq)]
      · rfl
  case calls => exact save_calls path
  case nameless => exact Path.fileName?_eq_none_iff
  case refused => exact targetName_of_no_fileName

end Storage

end Sealing
