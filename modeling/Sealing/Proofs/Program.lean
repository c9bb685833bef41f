import Sealing.Program.World
/-!
# Tasks in a world

`Task.exec` is the result of a task in a world, with the world after it.  A chain of tasks is taken
apart by `exec_bind_cases`, which says what a given end of a chain came from.  `Within` bounds what a
task does to the world, whichever world it runs in.
-/

namespace Sealing

open FileSystem

variable {α β ε ε' : Type}

theorem Program.run_bind (p : Program Location α) (f : α → Program Location β) (w : World) :
    (p.bind f).run w = (f (p.run w).1).run (p.run w).2 := by
  induction p generalizing w with
  | done a => rfl
  | call r next ih => exact ih _ _

namespace Task

/-- The result of a task in a world, and the world after it. -/
def exec (task : Task Location ε α) (w : World) : Except ε α × World :=
  Program.run task.run w

theorem exec_bind (x : Task Location ε α) (f : α → Task Location ε β) (w : World) :
    exec (x >>= f) w =
      match exec x w with
      | (.ok a, w') => exec (f a) w'
      | (.error e, w') => (.error e, w') := by
  show Program.run (Program.bind x.run (ExceptT.bindCont f)) w = _
  rw [Program.run_bind, exec]
  obtain ⟨result, w'⟩ := Program.run x.run w
  cases result with
  | ok a => rfl
  | error e => rfl

/-- A chain ends with the end of its second step, or with a failure of the first. -/
theorem exec_bind_cases {x : Task Location ε α} {f : α → Task Location ε β} {w w'' : World}
    {result : Except ε β} (h : exec (x >>= f) w = (result, w'')) :
    (∃ a w', exec x w = (.ok a, w') ∧ exec (f a) w' = (result, w'')) ∨
      ∃ e, exec x w = (.error e, w'') ∧ result = .error e := by
  rw [exec_bind] at h
  split at h
  · exact .inl ⟨_, _, ‹_›, h⟩
  · rw [Prod.mk.injEq] at h
    obtain ⟨rfl, rfl⟩ := h
    exact .inr ⟨_, ‹_›, rfl⟩

theorem exec_lift (p : Program Location α) (w : World) :
    exec (ExceptT.lift p : Task Location ε α) w = (.ok (p.run w).1, (p.run w).2) := by
  show Program.run (Program.bind p _) w = _
  rw [Program.run_bind]
  rfl

theorem exec_adapt (f : ε → ε') (x : Task Location ε α) (w : World) :
    exec (ExceptT.adapt f x : Task Location ε' α) w =
      ((exec x w).1.mapError f, (exec x w).2) := by
  show Program.run (Program.bind x.run _) w = _
  rw [Program.run_bind]
  rfl

theorem exec_request (r : Request Location) (w : World) :
    exec (request r : Task Location ε r.Reply) w = (.ok (w.answer r).1, (w.answer r).2) := rfl

theorem exec_ofResult (x : Except ε α) (w : World) :
    exec (ExceptT.mk (Pure.pure x) : Task Location ε α) w = (x, w) := rfl

theorem orFail_ok_bind (a : α) (f : α → Task Location Error β) :
    (orFail (.ok a) >>= f) = f a := rfl

theorem orFail_error_bind (e : SystemError) (f : α → Task Location Error β) :
    (orFail (.error e) >>= f) = throw (.io e) := rfl

theorem exec_random (length : Nat) (w : World) :
    exec (random length) w =
      (.ok (w.draw length), { w with random := fun i => w.random (length + i) }) := rfl

/-! ## Bounds on what a task does -/

/-- Wherever the task begins, it ends in a world that is related to that one. -/
def Within (R : World → World → Prop) (task : Task Location ε α) : Prop :=
  ∀ w, R w (exec task w).2

end Task

end Sealing
