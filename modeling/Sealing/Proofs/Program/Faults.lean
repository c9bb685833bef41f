import Sealing.Program.Faults
import Sealing.Proofs.Program.Calls
import Sealing.Proofs.Program.Concurrent
/-!
# Runs with faults

Each way to build a task has a lemma that takes its runs apart: a run of a chain is a run of the first
step that fails, or one of both.  A world makes runs without faults (`Task.runs_exec`), so that what
holds of these holds of it, and a world whose system refuses some calls makes runs in which no others
fail (`Program.runs_runFailing`).
-/

namespace Sealing

open FileSystem

variable {α β ε : Type} {faults : Request Location → Prop} {working : Location} {before after : Tree}

namespace Program

theorem Runs.of_bind {p : Program Location α} {f : α → Program Location β} {b : β}
    (h : (p.bind f).Runs faults working before after b) :
    ∃ a middle, p.Runs faults working before middle a ∧
      (f a).Runs faults working middle after b := by
  induction p generalizing before with
  | done a => exact ⟨a, before, .done a before, h⟩
  | call r next ih =>
    cases h with
    | call answers sound rest =>
      obtain ⟨a, middle, hp, hf⟩ := ih _ rest
      exact ⟨a, middle, .call answers sound hp, hf⟩

theorem error_of_changed {w : World} {x : Except SystemError Tree} {e : SystemError}
    (h : (w.changed x).1 = .error e) : x = .error e := by
  cases x with
  | ok t => cases h
  | error e' =>
    cases h
    rfl

/-- A world answers as its tree does. -/
theorem faultless_answer (w : World) (r : Request Location) :
    r.Faultless w.working w.tree (w.answer r).1 := by
  cases r with
  | stat p => rfl
  | read p => rfl
  | settle l => rfl
  | settleDirectory p => rfl
  | report event => trivial
  | random length => exact ⟨_, rfl⟩
  | inputLine => exact ⟨_, rfl⟩
  | write l bytes => exact ⟨bytes.length, rfl, List.length_pos_iff.mpr⟩
  | makeDirectory p => exact fun _ h => error_of_changed h
  | rename source target => exact fun _ h => error_of_changed h
  | remove p => exact fun _ h => error_of_changed h
  | createNew p mode =>
    intro e he
    simp only [World.answer] at he
    cases h : w.tree.createNew w.working p mode with
    | ok made =>
      rw [h] at he
      cases he
    | error e' =>
      rw [h] at he
      cases he
      rfl

/-- A call may be answered by a world. -/
theorem Runs.answered {w : World} {r : Request Location} {next : r.Reply → Program Location α}
    {a : α} (rest : (next (w.answer r).1).Runs faults (w.answer r).2.working (w.answer r).2.tree
      after a) : (Program.call r next).Runs faults w.working w.tree after a := by
  obtain ⟨hanswers, hworking⟩ := Shared.answers_answer w r
  rw [hworking] at rest
  exact .call hanswers (.inr (faultless_answer w r)) rest

/-- A run in a world is one without faults. -/
theorem runs_run (p : Program Location α) (w : World) :
    p.Runs (fun _ => False) w.working w.tree (p.run w).2.tree (p.run w).1 := by
  induction p generalizing w with
  | done a => exact .done a w.tree
  | call r next ih => exact .answered (ih _ (w.answer r).2)

/-- A call that the system refuses leaves the tree as it was. -/
theorem answers_refusal {r : Request Location} {e : SystemError} {reply : r.Reply}
    (h : r.refusal? e = some reply) : r.Answers working before reply before := by
  cases r with
  | stat p | read p | makeDirectory p | createNew p mode | write l bytes | rename source target
  | remove p =>
    cases h
    exact .inr ⟨⟨e, rfl⟩, rfl⟩
  | settle l | settleDirectory p | inputLine => rfl
  | random length | report event => cases h

/-- A run in a world that refuses some calls is one in which only these fail. -/
theorem runs_runFailing (fails : Request Location → Bool) (e : SystemError)
    (p : Program Location α) (w : World) :
    p.Runs (fun r => fails r = true) w.working w.tree (p.runFailing fails e w).2.tree
      (p.runFailing fails e w).1 := by
  induction p generalizing w with
  | done a => exact .done a w.tree
  | call r next ih =>
    unfold runFailing
    split
    · rename_i reply hfails hreply
      exact .call (answers_refusal hreply) (.inl hfails) (ih reply w)
    · exact .answered (ih _ (w.answer r).2)

end Program

namespace Task

theorem runs_exec (task : Task Location ε α) (w : World) :
    Runs (fun _ => False) w.working task w.tree (exec task w).2.tree (exec task w).1 :=
  Program.runs_run task.run w

/-- A chain ends with the end of its second step, or with a failure of the first. -/
theorem Runs.bind_cases {x : Task Location ε α} {f : α → Task Location ε β} {result : Except ε β}
    (h : Runs faults working (x >>= f) before after result) :
    (∃ a middle, Runs faults working x before middle (.ok a) ∧
        Runs faults working (f a) middle after result) ∨
      ∃ e, Runs faults working x before after (.error e) ∧ result = .error e := by
  obtain ⟨first, middle, hx, hf⟩ := Program.Runs.of_bind (f := ExceptT.bindCont f) h
  cases first with
  | ok a => exact .inl ⟨a, middle, hx, hf⟩
  | error e =>
    cases hf
    exact .inr ⟨e, hx, rfl⟩

/-- A chain that begins with a call goes on with the reply. -/
theorem Runs.of_request_bind {r : Request Location} {f : r.Reply → Task Location ε α}
    {result : Except ε α} (h : Runs faults working (request r >>= f) before after result) :
    ∃ reply middle, r.Answers working before reply middle ∧
      (faults r ∨ r.Faultless working before reply) ∧
      Runs faults working (f reply) middle after result := by
  cases h with
  | call answers sound rest => exact ⟨_, _, answers, sound, rest⟩

theorem Runs.of_request {r : Request Location} {result : Except ε r.Reply}
    (h : Runs faults working (request r : Task Location ε r.Reply) before after result) :
    ∃ reply, r.Answers working before reply after ∧
      (faults r ∨ r.Faultless working before reply) ∧ result = .ok reply := by
  cases h with
  | call answers sound rest =>
    cases rest
    exact ⟨_, answers, sound, rfl⟩

theorem Runs.of_result {x result : Except ε α}
    (h : Runs faults working (ExceptT.mk (Pure.pure x)) before after result) :
    after = before ∧ result = x := by
  cases h
  exact ⟨rfl, rfl⟩

theorem Runs.of_pure {a : α} {result : Except ε α}
    (h : Runs faults working (pure a) before after result) : after = before ∧ result = .ok a :=
  Runs.of_result h

theorem Runs.of_throw {e : ε} {result : Except ε α}
    (h : Runs faults working (throw e) before after result) :
    after = before ∧ result = .error e :=
  Runs.of_result h

/-! ## Bounds on what a run does -/

/-- Every run of the task ends with a tree that is related to the one that it began with. -/
def RunsWithin (faults : Request Location → Prop) (working : Location) (R : Tree → Tree → Prop)
    (task : Task Location ε α) : Prop :=
  ∀ before after result, Runs faults working task before after result → R before after

/-- A run is bounded by what its calls do. -/
theorem RunsWithin.of_calls {R : Tree → Tree → Prop} (refl : ∀ t, R t t)
    (trans : ∀ {a b c}, R a b → R b c → R a c) {task : Task Location ε α}
    (h : Calls (fun r => ∀ before reply after, r.Answers working before reply after → R before after)
      task) : RunsWithin faults working R task := by
  intro before after result hrun
  rw [calls_iff] at h
  unfold Runs at hrun
  generalize task.run = p at h hrun
  induction hrun with
  | done a t => exact refl t
  | call answers sound rest ih => exact trans (h.1 _ _ _ answers) (ih (h.2 _))

end Task

end Sealing
