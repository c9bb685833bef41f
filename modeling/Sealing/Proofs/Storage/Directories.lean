import Sealing.Proofs.FileSystem.Calls
import Sealing.Proofs.Program.Calls
import Sealing.Storage
/-!
# Directories made on the way

`Storage.makeDirectories` makes calls of two kinds and no others (`makeNested_calls`).  What these do
depends on nothing but the tree and the working directory, and takes nothing away from the tree; so
does the whole task.
-/

namespace Sealing

open FileSystem

namespace Task

variable {α β ε : Type}

/-- Result and tree depend on the tree and the working directory alone, the tree keeps all that it
had, and nothing else in the world changes. -/
def GrowsTree (task : Task Location ε α) : Prop :=
  ∀ (before : Tree) (working : Location), ∃ result after, Tree.KeepsAll before after ∧
    ∀ w : World, w.tree = before → w.working = working →
      exec task w = (result, { w with tree := after })

/-- What a call does to the files depends on them alone, and takes nothing away. -/
def GrowsFiles (r : Request Location) : Prop :=
  ∀ (before : Tree) (working : Location), ∃ reply after, Tree.KeepsAll before after ∧
    ∀ w : World, w.tree = before → w.working = working →
      w.answer r = (reply, { w with tree := after })

theorem growsFiles_stat (p : Path) : GrowsFiles (.stat p) := by
  intro before working
  refine ⟨before.stat working p, before, .refl _ before, fun w ht hd => ?_⟩
  subst ht hd
  rfl

theorem growsFiles_makeDirectory (p : Path) : GrowsFiles (.makeDirectory p) := by
  intro before working
  cases h : before.makeDirectory working p with
  | error e =>
    refine ⟨.error e, before, .refl _ before, fun w ht hd => ?_⟩
    subst ht hd
    rw [World.answer, h]
    rfl
  | ok after =>
    refine ⟨.ok (), after, Tree.keepsAll_of_makeDirectory h, fun w ht hd => ?_⟩
    subst ht hd
    rw [World.answer, h]
    rfl

theorem GrowsTree.of_calls {task : Task Location ε α} (h : Calls GrowsFiles task) :
    GrowsTree task := by
  have hprogram (working : Location) (p : Program Location (Except ε α))
      (hp : p.Calls GrowsFiles) (before : Tree) :
      ∃ result after, Tree.KeepsAll before after ∧
        ∀ w : World, w.tree = before → w.working = working →
          p.run w = (result, { w with tree := after }) := by
    induction p generalizing before with
    | done a =>
      refine ⟨a, before, .refl _ before, fun w ht _ => ?_⟩
      subst ht
      rfl
    | call r next ih =>
      obtain ⟨reply, middle, hfirst, hanswer⟩ := hp.1 before working
      obtain ⟨result, after, hrest, hrun⟩ := ih reply (hp.2 reply) middle
      refine ⟨result, after, hfirst.trans hrest, fun w ht hd => ?_⟩
      rw [Program.run, hanswer w ht hd]
      exact hrun { w with tree := middle } rfl hd
  intro before working
  exact hprogram working task.run (calls_iff.mp h) before

/-- The same in another world with the same files. -/
theorem GrowsTree.exec_eq {task : Task Location ε α} (hgrows : GrowsTree task) {w w' : World}
    {result : Except ε α} {after : Tree} (htree : w'.tree = w.tree)
    (hworking : w'.working = w.working)
    (h : exec task w' = (result, { w' with tree := after })) :
    exec task w = (result, { w with tree := after }) := by
  obtain ⟨result', after', -, hexec⟩ := hgrows w.tree w.working
  rw [hexec w' htree hworking, Prod.mk.injEq, World.mk.injEq] at h
  obtain ⟨rfl, rfl, -⟩ := h
  exact hexec w rfl rfl

end Task

namespace Storage

/-- Directories are made one by one, the outer ones first, and looked at where they stand already. -/
theorem makeNested_calls {Handle : Type} {kind : Request Handle → Prop} {paths : List Path}
    (hkind : ∀ p ∈ paths, kind (.makeDirectory p) ∧ kind (.stat p)) :
    Task.Calls kind (makeNested paths) := by
  have hexpect (p : Path) (hp : p ∈ paths) (otherwise : SystemError) :
      Task.Calls kind (expectDirectory p otherwise) := by
    refine .bind (.request (hkind p hp).2) fun reply => ?_
    split
    · exact .pure ()
    · exact .throw _
  induction paths with
  | nil => exact .pure ()
  | cons p outer ih =>
    have hp : p ∈ p :: outer := List.mem_cons_self
    -- One case for each answer that the first attempt can have.
    refine .bind (.request (hkind p hp).1) fun reply => ?_
    split
    · exact .pure ()
    · have houter (q : Path) (hq : q ∈ outer) : q ∈ p :: outer := List.mem_cons_of_mem p hq
      apply (ih (fun q hq => hkind q (houter q hq)) fun q hq => hexpect q (houter q hq)).bind
      intro _
      refine .bind (.request (hkind p hp).1) fun reply => ?_
      split
      · exact .pure ()
      · exact hexpect p hp _
      · exact .throw _
    · exact hexpect p hp _
    · exact .throw _

theorem makeDirectories_growsTree (p : Path) : Task.GrowsTree (makeDirectories p) :=
  .of_calls (makeNested_calls fun q _ => ⟨Task.growsFiles_makeDirectory q, Task.growsFiles_stat q⟩)

/-- Where the path leads to a directory already, nothing is made. -/
theorem exec_makeDirectories_of_stat {p : Path} {w : World}
    (h : w.tree.stat w.working p = .ok .directory) :
    Task.exec (makeDirectories p) w = (.ok (), w) := by
  unfold makeDirectories
  rcases p.ancestors_cases with hnone | ⟨outer, hsome⟩
  · rw [hnone]
    rfl
  · rw [hsome, makeNested, Task.exec_bind, Task.exec_request, World.answer,
      Tree.makeDirectory_of_stat h, World.changed_error]
    simp only [expectDirectory]
    rw [Task.exec_bind, Task.exec_request, World.answer, h]
    rfl

end Storage

end Sealing
