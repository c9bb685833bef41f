import Sealing.Proofs.Program
/-!
# The calls that a program makes

A program makes only calls of some kind if it does so whatever the replies are.  A program that does
not read the standard input does the same in all worlds that have the same files and the same random
bytes to come.
-/

namespace Sealing

open FileSystem

variable {Handle α β ε ε' : Type}

/-- Every call of the program is of a kind, whatever was replied to those before it. -/
def Program.Calls (kind : Request Handle → Prop) : Program Handle α → Prop
  | done _ => True
  | call r next => kind r ∧ ∀ reply, (next reply).Calls kind

theorem Program.Calls.bind {kind : Request Handle → Prop} {p : Program Handle α}
    {f : α → Program Handle β} (hp : p.Calls kind) (hf : ∀ a, (f a).Calls kind) :
    (p.bind f).Calls kind := by
  induction p with
  | done a => exact hf a
  | call r next ih => exact ⟨hp.1, fun reply => ih reply (hp.2 reply)⟩

namespace Task

variable {kind : Request Handle → Prop}

def Calls (kind : Request Handle → Prop) (task : Task Handle ε α) : Prop :=
  Program.Calls kind task.run

theorem calls_iff {task : Task Handle ε α} : Calls kind task ↔ Program.Calls kind task.run :=
  Iff.rfl

theorem Calls.pure (a : α) : Calls kind (pure a : Task Handle ε α) := trivial

theorem Calls.throw (e : ε) : Calls kind (throw e : Task Handle ε α) := trivial

theorem Calls.ofResult (x : Except ε α) :
    Calls kind (ExceptT.mk (Pure.pure x) : Task Handle ε α) := trivial

theorem Calls.request {r : Request Handle} (h : kind r) :
    Calls kind (request r : Task Handle ε r.Reply) :=
  ⟨h, fun _ => trivial⟩

theorem Calls.bind {x : Task Handle ε α} {f : α → Task Handle ε β} (hx : Calls kind x)
    (hf : ∀ a, Calls kind (f a)) : Calls kind (x >>= f) := by
  refine Program.Calls.bind (f := ExceptT.bindCont f) hx ?_
  intro result
  cases result with
  | ok a => exact hf a
  | error e => trivial

/-- What is done behind a result need only be looked at for the value that it is. -/
theorem Calls.ofResult_bind {x : Except ε α} {f : α → Task Handle ε β}
    (h : ∀ a, x = .ok a → Calls kind (f a)) :
    Calls kind (ExceptT.mk (Pure.pure x) >>= f : Task Handle ε β) := by
  cases x with
  | ok a => exact h a rfl
  | error e => trivial

theorem Calls.map (f : α → β) {x : Task Handle ε α} (hx : Calls kind x) : Calls kind (f <$> x) := by
  show Program.Calls kind (Program.bind x.run _)
  refine Program.Calls.bind hx fun result => ?_
  cases result with
  | ok a => trivial
  | error e => trivial

theorem Calls.adapt (f : ε → ε') {x : Task Handle ε α} (hx : Calls kind x) :
    Calls kind (ExceptT.adapt f x : Task Handle ε' α) := by
  show Program.Calls kind (Program.bind x.run _)
  exact Program.Calls.bind hx fun _ => trivial

theorem Calls.random {length : Nat} (h : kind (.random length)) : Calls kind (random length) := by
  refine .bind (.request h) fun reply => ?_
  split
  · exact .pure _
  · exact .throw _

theorem Calls.mono {kind' : Request Handle → Prop} {task : Task Handle ε α} (h : Calls kind task)
    (hkind : ∀ r, kind r → kind' r) : Calls kind' task := by
  have hprogram (p : Program Handle (Except ε α)) (hp : p.Calls kind) : p.Calls kind' := by
    induction p with
    | done result => trivial
    | call r next ih => exact ⟨hkind r hp.1, fun reply => ih reply (hp.2 reply)⟩
  exact hprogram task.run h

/-- What holds of the effect of every call holds of that of the task. -/
theorem Within.of_calls {R : World → World → Prop} (refl : ∀ w, R w w)
    (trans : ∀ {a b c}, R a b → R b c → R a c) {task : Task Location ε α}
    (h : Calls (fun r => ∀ w, R w (w.answer r).2) task) : Within R task := by
  have hprogram (p : Program Location (Except ε α)) (hp : p.Calls fun r => ∀ w, R w (w.answer r).2)
      (w : World) : R w (p.run w).2 := by
    induction p generalizing w with
    | done result => exact refl w
    | call r next ih => exact trans (hp.1 w) (ih _ (hp.2 _) _)
  exact hprogram task.run h

-- Tasks are taken apart by the lemmas above, never by running them within a type.
attribute [irreducible] Calls

end Task

/-! ## Programs that need no input -/

/-- The same files, seen from the same place, and the same random bytes to come. -/
def World.SameSystem (w w' : World) : Prop :=
  w'.tree = w.tree ∧ w'.working = w.working ∧ w'.random = w.random

theorem World.SameSystem.refl (w : World) : SameSystem w w := ⟨rfl, rfl, rfl⟩

theorem World.SameSystem.trans {a b c : World} (h₁ : SameSystem a b) (h₂ : SameSystem b c) :
    SameSystem a c :=
  ⟨h₂.1.trans h₁.1, h₂.2.1.trans h₁.2.1, h₂.2.2.trans h₁.2.2⟩

/-- Whether a call reads the standard input. -/
def Request.readsInput : Request Handle → Bool
  | .inputLine => true
  | _ => false

/-- Every other call has the same reply and the same effect in worlds with the same system. -/
theorem World.SameSystem.answer {w w' : World} (h : SameSystem w w') {r : Request Location}
    (hr : r.readsInput = false) :
    (w'.answer r).1 = (w.answer r).1 ∧ SameSystem (w.answer r).2 (w'.answer r).2 := by
  obtain ⟨tree, working, input, random, events⟩ := w
  obtain ⟨tree', working', input', random', events'⟩ := w'
  obtain ⟨htree, hworking, hrandom⟩ := h
  simp only at htree hworking hrandom
  subst htree hworking hrandom
  cases r with
  | inputLine => cases hr
  | stat p => exact ⟨rfl, rfl, rfl, rfl⟩
  | read p => exact ⟨rfl, rfl, rfl, rfl⟩
  | write l bytes => exact ⟨rfl, rfl, rfl, rfl⟩
  | settle l => exact ⟨rfl, rfl, rfl, rfl⟩
  | settleDirectory p => exact ⟨rfl, rfl, rfl, rfl⟩
  | random length => exact ⟨rfl, rfl, rfl, rfl⟩
  | report event => exact ⟨rfl, rfl, rfl, rfl⟩
  | makeDirectory p =>
    simp only [World.answer]
    cases tree'.makeDirectory working' p with
    | ok t => exact ⟨rfl, rfl, rfl, rfl⟩
    | error e => exact ⟨rfl, rfl, rfl, rfl⟩
  | createNew p mode =>
    simp only [World.answer]
    cases tree'.createNew working' p mode with
    | ok made => exact ⟨rfl, rfl, rfl, rfl⟩
    | error e => exact ⟨rfl, rfl, rfl, rfl⟩
  | rename source target =>
    simp only [World.answer]
    cases tree'.rename working' source target with
    | ok t => exact ⟨rfl, rfl, rfl, rfl⟩
    | error e => exact ⟨rfl, rfl, rfl, rfl⟩
  | remove p =>
    simp only [World.answer]
    cases tree'.remove working' p with
    | ok t => exact ⟨rfl, rfl, rfl, rfl⟩
    | error e => exact ⟨rfl, rfl, rfl, rfl⟩

end Sealing
