import Sealing.Program.Concurrent
/-!
# Programs whose calls can fail

On a real system a call can fail although the tree would let it do its work: the disk is full, or the
device is at fault.  A run of a program is told which of its calls this can happen to.  All other
calls are answered from the tree, and a write among them takes at least one of its bytes, though it
need not take them all.
-/

namespace Sealing

open FileSystem

namespace Request

/-- The reply is the tree's own: the call is refused for a reason in the tree, or not at all. -/
def Faultless (working : Location) (before : Tree) : (r : Request Location) → r.Reply → Prop
  | .stat p, reply => reply = before.stat working p
  | .read p, reply => reply = before.read working p
  | .makeDirectory p, reply => ∀ e, reply = .error e → before.makeDirectory working p = .error e
  | .createNew p mode, reply => ∀ e, reply = .error e → before.createNew working p mode = .error e
  | .write _ bytes, reply => ∃ taken, reply = .ok taken ∧ (bytes ≠ [] → 0 < taken)
  | .settle _, reply => reply = .ok ()
  | .rename source target, reply =>
    ∀ e, reply = .error e → before.rename working source target = .error e
  | .remove p, reply => ∀ e, reply = .error e → before.remove working p = .error e
  | .settleDirectory p, reply => reply = (before.resolve working p).map fun _ => ()
  | .random _, reply => ∃ bytes, reply = .ok bytes
  | .inputLine, reply => ∃ line, reply = .ok line
  | .report _, _ => True

/-- The reply by which the system refuses a call that it can refuse. -/
def refusal? {Handle : Type} (e : SystemError) : (r : Request Handle) → Option r.Reply
  | .stat _ | .read _ | .makeDirectory _ | .createNew .. | .write .. | .settle _ | .rename ..
  | .remove _ | .settleDirectory _ | .inputLine => some (.error e)
  | .random _ | .report _ => none

end Request

namespace Program

variable {α : Type}

/-- From one tree to another a program can come to a value, where only the calls in `faults` fail for
reasons outside the tree. -/
inductive Runs (faults : Request Location → Prop) (working : Location) :
    Program Location α → (before after : Tree) → α → Prop where
  | done (a : α) (t : Tree) : Runs faults working (.done a) t t a
  | call {r : Request Location} {next : r.Reply → Program Location α} {reply : r.Reply}
      {before middle after : Tree} {a : α} (answers : r.Answers working before reply middle)
      (sound : faults r ∨ r.Faultless working before reply)
      (rest : Runs faults working (next reply) middle after a) :
      Runs faults working (.call r next) before after a

/-- A run in a world whose system refuses some of the calls, all with one error. -/
def runFailing (fails : Request Location → Bool) (e : SystemError) :
    Program Location α → World → α × World
  | done a, w => (a, w)
  | call r next, w =>
    match fails r, r.refusal? e with
    | true, some reply => (next reply).runFailing fails e w
    | _, _ => (next (w.answer r).1).runFailing fails e (w.answer r).2

end Program

/-- The runs of a task, each with its result. -/
def Task.Runs {ε α : Type} (faults : Request Location → Prop) (working : Location)
    (task : Task Location ε α) (before after : Tree) (result : Except ε α) : Prop :=
  Program.Runs faults working task.run before after result

end Sealing
