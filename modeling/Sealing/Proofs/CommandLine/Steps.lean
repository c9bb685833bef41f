import Sealing.Proofs.CommandLine.Inputs
import Sealing.Proofs.Outcome
/-!
# The steps of the commands

What the tasks that commands are made of do in a world: files are read as they stand there, reports
go to the log, and a password is taken from the input without a look at the files.
-/

namespace Sealing

open FileSystem

namespace Task

variable {α β ε ε' : Type}

/-- A chain ends well exactly if both of its steps do. -/
theorem exec_bind_ok {x : Task Location ε α} {f : α → Task Location ε β} {w : World} {b : β}
    (h : (exec (x >>= f) w).1 = .ok b) :
    ∃ a w', exec x w = (.ok a, w') ∧ (exec (f a) w').1 = .ok b := by
  rw [exec_bind] at h
  split at h
  · exact ⟨_, _, ‹_›, h⟩
  · cases h

theorem exec_reportAll (events : List Log.Event) (w : World) :
    exec (reportAll events : Task Location ε Unit) w =
      (.ok (), { w with events := w.events ++ events }) := by
  induction events generalizing w with
  | nil =>
    rw [List.append_nil]
    rfl
  | cons event rest ih =>
    rw [reportAll, exec_bind, exec_request, World.answer]
    simp only
    rw [ih, List.append_assoc]
    rfl

/-- The events of an outcome go to the log, and its result is handed on. -/
theorem exec_ofOutcome (outcome : Outcome α) (w : World) :
    exec (ofOutcome outcome) w =
      (outcome.result, { w with events := w.events ++ outcome.events }) := by
  rw [ofOutcome, exec_bind, exec_reportAll]
  rfl

end Task

namespace CommandLine

open Sealing.Task

theorem exec_step {α : Type} (task : Task Location Error α) (w : World) :
    exec (step task) w = ((exec task w).1.mapError .ofError, (exec task w).2) :=
  exec_adapt _ _ _

/-- A step ends well exactly if its task does. -/
theorem exec_step_eq_ok_iff {α : Type} {task : Task Location Error α} {w w' : World} {a : α} :
    exec (step task) w = (.ok a, w') ↔ exec task w = (.ok a, w') := by
  rw [exec_step]
  obtain ⟨result, after⟩ := exec task w
  simp only [Prod.mk.injEq, Except.mapError_eq_ok_iff]

theorem exec_loadWithin (context : String) (p : Path) (w : World) :
    exec (stepWithin context (Storage.load ⟨p⟩)) w =
      ((w.tree.read w.working p).mapError fun e => (Failure.ofError (.io e)).within context, w) := by
  unfold stepWithin
  rw [exec_adapt]
  show (((w.tree.read w.working p).mapError Error.io).mapError _, w) = _
  cases w.tree.read w.working p with
  | ok bytes => rfl
  | error e => rfl

/-- An input that is read is what stands at its path. -/
theorem exec_readInput_eq_ok_iff {p : Path} {bytes : List UInt8} {w w' : World} :
    exec (readInput p) w = (.ok bytes, w') ↔ w.tree.read w.working p = .ok bytes ∧ w = w' := by
  rw [readInput, exec_loadWithin, Prod.mk.injEq, Except.mapError_eq_ok_iff]

/-- A key that is read is the content of its file. -/
theorem exec_readKey_eq_ok_iff {p : Path} {key : Key} {w w' : World} :
    exec (readKey p) w = (.ok key, w') ↔
      (∃ bytes, w.tree.read w.working p = .ok bytes ∧ Key.ofList bytes = .ok key) ∧ w = w' := by
  unfold readKey
  rw [exec_bind, exec_loadWithin]
  cases w.tree.read w.working p with
  | error e =>
    constructor
    · intro h
      cases h
    · rintro ⟨⟨bytes, h, -⟩, -⟩
      cases h
  | ok bytes =>
    show (exec (stepWithin _ _) w = _) ↔ _
    unfold stepWithin
    rw [exec_adapt, exec_ofResult, Prod.mk.injEq, Except.mapError_eq_ok_iff]
    constructor
    · rintro ⟨hkey, hw⟩
      exact ⟨⟨bytes, rfl, hkey⟩, hw⟩
    · rintro ⟨⟨bytes', hbytes, hkey⟩, hw⟩
      cases hbytes
      exact ⟨hkey, hw⟩

end CommandLine

end Sealing
