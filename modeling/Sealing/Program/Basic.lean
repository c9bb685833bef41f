import Sealing.Program.Request
import Sealing.Outcome
/-!
# Programs

A program is done with a value, or makes a call and goes on with its reply.  It is data: the same
program runs on a directory tree, on the real system, with some calls failing, or a call at a time
between the calls of another one.
-/

namespace Sealing

/-- A program that ends with a value. -/
inductive Program (Handle α : Type) where
  | done (value : α)
  | call (request : Request Handle) (next : request.Reply → Program Handle α)

namespace Program

variable {Handle α β : Type}

/-- One program after another. -/
def bind : Program Handle α → (α → Program Handle β) → Program Handle β
  | done a, f => f a
  | call r next, f => call r fun reply => (next reply).bind f

instance : Monad (Program Handle) where
  pure := done
  bind := bind

theorem bind_assoc {γ : Type} (p : Program Handle α) (f : α → Program Handle β)
    (g : β → Program Handle γ) : (p.bind f).bind g = p.bind fun a => (f a).bind g := by
  induction p with
  | done a => rfl
  | call r next ih =>
    simp only [bind]
    congr
    funext reply
    exact ih reply

/-- The program of a single call. -/
def request (r : Request Handle) : Program Handle r.Reply := call r done

end Program

/-- A program that can fail. -/
abbrev Task (Handle ε α : Type) := ExceptT ε (Program Handle) α

namespace Task

variable {Handle ε α : Type}

/-- A call with its reply. -/
def request (r : Request Handle) : Task Handle ε r.Reply :=
  ExceptT.lift (Program.request r)

/-- The reply of a call whose failure is a failure of the task. -/
def orFail (reply : Except SystemError α) : Task Handle Error α :=
  ExceptT.mk <| pure <| reply.mapError .io

def random (length : Nat) : Task Handle Error (FixedBytes length) := do
  match (← request (.random length) : Except String (FixedBytes length)) with
  | .ok bytes => return bytes
  | .error reason => throw (.backend "OS random generator" reason)

def reportAll : List Log.Event → Task Handle ε Unit
  | [] => pure ()
  | event :: rest => do
    request (.report event)
    reportAll rest

/-- Reports the events of an outcome and goes on with its result. -/
def ofOutcome (outcome : Outcome α) : Task Handle Error α := do
  reportAll outcome.events
  ExceptT.mk (pure outcome.result)

end Task

end Sealing
