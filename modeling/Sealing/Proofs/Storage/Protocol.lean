import Sealing.Proofs.FileSystem.Overlay
import Sealing.Proofs.Program.Concurrent
import Sealing.Proofs.Storage
/-!
# What a save does, call by call

A save goes through three stages: it has nothing of its own in the tree, it holds a temporary file, or
it has moved that over the target.  `Effect` is all that one of its calls can do at each stage, and
`save_follows` says that it does nothing else, whatever is replied to it.
-/

namespace Sealing

open FileSystem Tree

namespace Storage

/-- How far a save has come. -/
inductive Stage where
  | idle
  /-- It has written some bytes to the temporary file that it made, on a tree and at a location. -/
  | holding (temporary : Path) (made : Tree) (l : Location) (bytes : List UInt8)
  /-- It has moved its file over the target. -/
  | moved

namespace Stage

/-- Where the temporary file is. -/
def location? : Stage → Option Location
  | holding _ _ l _ => some l
  | _ => none

/-- The temporary file has the bytes that were written to it, is not at the target, and can still be
found under its path. -/
def Holds (working : Location) (path : Path) : Stage → Tree → Prop
  | holding temporary made l bytes, t =>
    made.vacancy working temporary = .ok l ∧ ¬path.EndsIn l ∧ Overlays path made t ∧
      t.find? l = some (.file bytes fileMode)
  | _, _ => True

end Stage

/-- What a call of a save can do to the tree at each stage, whether it moves the file, and the stage
that it leads to. -/
inductive Effect (working : Location) (path : Path) (content : List UInt8) :
    Stage → (before : Tree) → (moves : Bool) → (after : Tree) → Stage → Prop where
  | nothing {stage : Stage} {t : Tree} : Effect working path content stage t false t stage
  | directory {stage : Stage} {t t' : Tree} {p : Path} (way : p ∈ path.directory.ancestors)
      (made : t.makeDirectory working p = .ok t') :
      Effect working path content stage t false t' stage
  | create {t : Tree} {name : String} {random : FixedBytes 8} {l : Location}
      (named : path.fileName? = some name)
      (vacant : t.vacancy working (temporaryPath path name random) = .ok l) :
      Effect working path content .idle t false (t.insert l (.file [] fileMode))
        (.holding (temporaryPath path name random) t l [])
  | append {t made : Tree} {temporary : Path} {l : Location} {bytes : List UInt8}
      (more : List UInt8) :
      Effect working path content (.holding temporary made l bytes) t false (t.append l more)
        (.holding temporary made l (bytes ++ more))
  | move {t t' made : Tree} {temporary : Path} {l : Location}
      (moved : t.rename working temporary path = .ok t') :
      Effect working path content (.holding temporary made l content) t true t' .moved
  | remove {t t' made : Tree} {temporary : Path} {l : Location} {bytes : List UInt8}
      (removed : t.remove working temporary = .ok t') :
      Effect working path content (.holding temporary made l bytes) t false t' .idle

/-- The protocol of the saves of some content. -/
def protocol (working : Location) (path : Path) (content : List UInt8) : Protocol Stage where
  holds := Stage.Holds working path
  allows := fun stage before r reply after stage' =>
    Effect working path content stage before (r.moved reply) after stage'

section

variable {working : Location} {path : Path} {content : List UInt8} {α : Type}
  {ends : Stage → α → Prop} {stage : Stage}

/-- A call that leaves the tree alone leads to no other stage. -/
theorem follows_quiet {r : Request Location} {f : r.Reply → Task Location Error α}
    (hquiet : ∀ before reply after, r.Answers working before reply after → after = before)
    (hmoved : ∀ reply, r.moved reply = false)
    (hf : ∀ reply, Task.Follows working (protocol working path content) ends (f reply) stage) :
    Task.Follows working (protocol working path content) ends (Task.request r >>= f) stage := by
  refine .call fun before reply after _ hanswers => ⟨stage, ?_, hf reply⟩
  rw [hquiet before reply after hanswers]
  show Effect working path content stage before (r.moved reply) before stage
  rw [hmoved]
  exact .nothing

/-- Making directories leaves a save at the stage where it is. -/
theorem makeDirectories_follows :
    Task.Follows working (protocol working path content) (fun stage' _ => stage' = stage)
      (makeDirectories path.directory) stage := by
  refine .of_calls (makeNested_calls fun p hp => ⟨?_, ?_⟩)
  · rintro before reply after - (⟨-, hmade⟩ | ⟨-, rfl⟩)
    · exact .directory hp hmade
    · exact .nothing
  · rintro before reply after - (⟨-, rfl⟩ | ⟨-, rfl⟩)
    · exact .nothing
    · exact .nothing

theorem random_follows (length : Nat) :
    Task.Follows working (protocol working path content) (fun stage' _ => stage' = stage)
      (Task.random length) stage := by
  refine .of_calls (.random ?_)
  rintro before reply after - rfl
  exact .nothing

variable {temporary : Path} {made : Tree} {l : Location}

/-- However many bytes each call takes, they come to the whole content. -/
theorem writeRest_follows {rest written : List UInt8} {taken : Nat}
    (h : written ++ rest.drop taken = content) :
    Task.Follows working (protocol working path content)
      (fun stage' _ => stage' = .holding temporary made l content) (writeRest l taken rest)
      (.holding temporary made l written) := by
  -- On the bytes that are left; the first of them were taken by the call before.
  induction rest generalizing taken written with
  | nil =>
    rw [List.drop_nil, List.append_nil] at h
    rw [h]
    cases taken with
    | zero => exact .pure rfl
    | succ taken => exact .pure rfl
  | cons b rest ih =>
    cases taken with
    | succ taken => exact ih h
    | zero =>
      refine .call fun before reply after _ hanswers => ?_
      rcases hanswers with ⟨taken, -, rfl, rfl⟩ | ⟨⟨e, rfl⟩, rfl⟩
      · refine ⟨_, .append ((b :: rest).take taken), ?_⟩
        cases taken with
        | zero => exact .throw _
        | succ taken =>
          -- What was written and what is left still make up the content.
          apply ih
          rw [← h, List.take_succ_cons, List.append_assoc, List.cons_append, List.take_append_drop]
          rfl
      · exact ⟨_, .nothing, .throw _⟩

theorem writeNew_follows {name : String} {random : FixedBytes 8}
    (hname : path.fileName? = some name) :
    Task.Follows working (protocol working path content)
      (fun stage' _ =>
        ∃ made l, stage' = .holding (temporaryPath path name random) made l content)
      (writeNew (temporaryPath path name random) content) .idle := by
  refine .call fun before reply after _ hanswers => ?_
  rcases hanswers with ⟨l, rfl, hcreate⟩ | ⟨⟨e, rfl⟩, rfl⟩
  · obtain ⟨hl, rfl⟩ := createNew_eq_ok_iff.mp hcreate
    refine ⟨_, .create hname hl, ?_⟩
    have hwrite : Task.Follows working (protocol working path content)
        (fun stage' _ =>
          stage' = .holding (temporaryPath path name random) before l content)
        (writeAll l content) (.holding (temporaryPath path name random) before l []) :=
      writeRest_follows (List.nil_append content)
    rw [Task.orFail_ok_bind]
    refine hwrite.bind ?_
    rintro _ _ rfl
    refine follows_quiet (fun _ _ _ h => h) (fun _ => rfl) fun reply => ?_
    exact .ofResult fun _ _ => ⟨_, _, rfl⟩
  · refine ⟨_, .nothing, ?_⟩
    rw [Task.orFail_error_bind]
    exact .throw _

theorem replace_follows :
    Task.Follows working (protocol working path content) (fun stage' _ => stage' = .moved)
      (replace temporary path) (.holding temporary made l content) := by
  refine .call fun before reply after _ hanswers => ?_
  rcases hanswers with ⟨rfl, hmoved⟩ | ⟨⟨e, rfl⟩, rfl⟩
  · exact ⟨_, .move hmoved, .pure rfl⟩
  · refine ⟨_, .nothing, .call fun before reply after _ hanswers => ?_⟩
    rcases hanswers with ⟨rfl, hremoved⟩ | ⟨⟨cleanup, rfl⟩, rfl⟩
    · exact ⟨_, .remove hremoved, .throw _⟩
    · refine ⟨_, .nothing, ?_⟩
      exact follows_quiet (fun _ _ _ h => h) (fun _ => rfl) fun _ => .throw _

/-- A save keeps to its protocol, and has moved its file if it ends well. -/
theorem save_follows :
    Task.Follows working (protocol working path content) (fun stage' _ => stage' = .moved)
      (save ⟨path⟩ content) .idle := by
  unfold save
  -- The parents, the name of the target and the random bytes: nothing is held yet.
  refine makeDirectories_follows.bind ?_
  rintro _ _ rfl
  have hname : Task.Follows working (protocol working path content)
      (fun stage' name => stage' = .idle ∧ path.fileName? = some name)
      (ExceptT.mk (pure (targetName path)) : Task Location Error String) .idle :=
    .ofResult fun name h => ⟨rfl, fileName?_of_targetName h⟩
  refine hname.bind ?_
  rintro _ name ⟨rfl, hname⟩
  refine (random_follows 8).bind ?_
  rintro _ random rfl
  refine (writeNew_follows hname).bind ?_
  rintro _ _ ⟨made, l, rfl⟩
  refine replace_follows.bind ?_
  rintro _ _ rfl
  -- The file is in its place, and what is left to do changes nothing.
  refine follows_quiet (fun _ _ _ h => h) (fun _ => rfl) fun reply => ?_
  cases reply with
  | error e =>
    rw [Task.orFail_error_bind]
    exact .throw _
  | ok u =>
    rw [Task.orFail_ok_bind]
    apply Task.Follows.request (.report _)
    intro before reply after _ hanswers
    rw [show after = before from hanswers]
    exact ⟨.moved, .nothing, rfl⟩

end

end Storage

end Sealing
