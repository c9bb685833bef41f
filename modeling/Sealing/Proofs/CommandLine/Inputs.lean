import Sealing.CommandLine.Run
import Sealing.Proofs.Program.Calls
/-!
# Reading leaves the files alone

All that a command does before it writes its output is to read, to draw random bytes and to report.
None of these calls touches a file, whatever is replied to it, so that the tree and the working
directory stay as they are.
-/

namespace Sealing

open FileSystem (Location Path)

variable {Handle : Type}

/-- Whether a call leaves the files alone, whatever is replied to it. -/
def Request.leavesFiles : Request Handle → Bool
  | .stat _ | .read _ | .random _ | .inputLine | .report _ => true
  | _ => false

/-- The files of two worlds are the same, seen from the same place. -/
def World.SameFiles (w w' : World) : Prop := w'.tree = w.tree ∧ w'.working = w.working

theorem World.SameFiles.refl (w : World) : SameFiles w w := ⟨rfl, rfl⟩

theorem World.SameFiles.trans {a b c : World} (h₁ : SameFiles a b) (h₂ : SameFiles b c) :
    SameFiles a c :=
  ⟨h₂.1.trans h₁.1, h₂.2.trans h₁.2⟩

theorem World.sameFiles_answer (w : World) {r : Request Location} (h : r.leavesFiles = true) :
    SameFiles w (w.answer r).2 := by
  cases r with
  | stat p => exact .refl w
  | read p => exact .refl w
  | random length => exact ⟨rfl, rfl⟩
  | inputLine => exact ⟨rfl, rfl⟩
  | report event => exact ⟨rfl, rfl⟩
  | makeDirectory p => cases h
  | createNew p mode => cases h
  | write l bytes => cases h
  | settle l => cases h
  | rename source target => cases h
  | remove p => cases h
  | settleDirectory p => cases h

namespace Task

variable {α ε : Type}

/-- A task that changes no file. -/
abbrev ReadsOnly (task : Task Location ε α) : Prop := Within World.SameFiles task

/-- A task all of whose calls leave the files alone. -/
abbrev Reads (task : Task Handle ε α) : Prop := Calls (fun r => r.leavesFiles = true) task

theorem Reads.readsOnly {task : Task Location ε α} (h : Reads task) : ReadsOnly task :=
  .of_calls World.SameFiles.refl World.SameFiles.trans
    (h.mono fun _ hr w => w.sameFiles_answer hr)

theorem reportAll_reads (events : List Log.Event) :
    Reads (reportAll events : Task Handle ε Unit) := by
  induction events with
  | nil => exact .pure ()
  | cons event rest ih => exact .bind (.request rfl) fun _ => ih

theorem ofOutcome_reads (outcome : Outcome α) : Reads (ofOutcome outcome : Task Handle Error α) :=
  .bind (reportAll_reads _) fun _ => .ofResult _

end Task

theorem Storage.load_reads (s : Storage) : Task.Reads (s.load : Task Handle Error (List UInt8)) :=
  .bind (.request rfl) fun _ => .ofResult _

namespace CommandLine

open Sealing.Task (Reads)

theorem readInput_reads (path : Path) :
    Reads (readInput path : Task Handle Failure (List UInt8)) :=
  .adapt _ (Storage.load_reads _)

theorem readKey_reads (path : Path) : Reads (readKey path : Task Handle Failure Key) :=
  .bind (.adapt _ (Storage.load_reads _)) fun _ => .adapt _ (.ofResult _)

/-- Asking for a password takes a line of the input at most. -/
theorem readPassword_calls {kind : Request Handle → Prop} (h : kind .inputLine)
    (env : Environment) : Task.Calls kind (readPassword env) := by
  unfold readPassword
  extract_lets fromInput
  have hinput : Task.Calls kind fromInput := by
    refine .bind (.request h) fun reply => ?_
    split
    · exact .throw _
    · exact .ofResult _
  split
  · split
    · exact hinput
    · exact .pure _
  · exact hinput

theorem readPassword_reads (env : Environment) :
    Reads (readPassword env : Task Handle Failure String) :=
  have hkind : (Request.inputLine : Request Handle).leavesFiles = true := rfl
  readPassword_calls hkind env

theorem sealMessage_reads (env : Environment) (keyFile : Option Path) (cost : CostChoice)
    (message : List UInt8) :
    Reads (sealMessage env keyFile cost message : Task Handle Failure (List UInt8)) := by
  have hnonce : Reads (randomNonce : Task Handle Error Nonce) := .map _ (.random rfl)
  cases keyFile with
  | some path =>
    refine .bind (readKey_reads path) fun key => ?_
    exact .adapt _ (.bind hnonce fun _ => Task.ofOutcome_reads _)
  | none =>
    refine .bind (.adapt _ (.ofResult _)) fun config => ?_
    refine .bind (readPassword_reads env) fun password => ?_
    exact .adapt _ (.bind hnonce fun _ => Task.ofOutcome_reads _)

theorem keyContent_reads : Reads (keyContent : Task Handle Failure (List UInt8)) :=
  .map _ (.adapt _ (.map _ (.random rfl)))

theorem sealContent_reads (env : Environment) (input : Path) (keyFile : Option Path)
    (cost : CostChoice) :
    Reads (sealContent env input keyFile cost : Task Handle Failure (List UInt8)) :=
  .bind (readInput_reads input) fun message => sealMessage_reads env keyFile cost message

theorem sealContent_readsOnly (env : Environment) (input : Path) (keyFile : Option Path)
    (cost : CostChoice) : Task.ReadsOnly (sealContent env input keyFile cost) :=
  (sealContent_reads env input keyFile cost).readsOnly

theorem runInspect_readsOnly (input : Path) : Task.ReadsOnly (runInspect input) := by
  refine Reads.readsOnly (.bind (readInput_reads input) fun data => ?_)
  refine .bind (.adapt _ (.ofResult _)) fun report => ?_
  exact .pure _

end CommandLine

end Sealing
