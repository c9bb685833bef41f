import Sealing.Program.Concurrent
import Sealing.Proofs.Program.Calls
/-!
# Protocols

What many programs do to a shared tree is told from what each is bound to.  A protocol gives a
program stages; at each stage there is something that holds in the tree, and calls may do certain
things and lead to certain stages.  A program that follows its protocol does so from call to call,
whatever the others did in between, as long as they leave what holds at its stage alone.  So an
invariant that every allowed call preserves is one of all programs together
(`Shared.Reaches.exists_stages`).  In a world the programs can take their turns in every order
(`Shared.Reaches.takeTurns`).
-/

namespace Sealing

open FileSystem

/-- What a program is bound to. -/
structure Protocol (Stage : Type) where
  /-- What a program at a stage can count on. -/
  holds : Stage → Tree → Prop
  /-- What a call may do to the tree, and the stage that it leads to. -/
  allows : Stage → (before : Tree) → (r : Request Location) → r.Reply → (after : Tree) → Stage →
    Prop

variable {Stage α β ε ε' : Type} {working : Location} {p : Protocol Stage}

/-- Every call of the program is one that its stage allows, and it ends as it should at the stage
that it has come to. -/
def Program.Follows (working : Location) (p : Protocol Stage) (ends : Stage → α → Prop) :
    Program Location α → Stage → Prop
  | done a, stage => ends stage a
  | call r next, stage =>
    ∀ before reply after, p.holds stage before → r.Answers working before reply after →
      ∃ stage', p.allows stage before r reply after stage' ∧
        (next reply).Follows working p ends stage'

theorem Program.Follows.bind {ends : Stage → α → Prop} {ends' : Stage → β → Prop}
    {program : Program Location α} {f : α → Program Location β} {stage : Stage}
    (h : program.Follows working p ends stage)
    (hf : ∀ stage' a, ends stage' a → (f a).Follows working p ends' stage') :
    (program.bind f).Follows working p ends' stage := by
  induction program generalizing stage with
  | done a => exact hf stage a h
  | call r next ih =>
    intro before reply after hholds hanswers
    obtain ⟨stage', hallows, hnext⟩ := h before reply after hholds hanswers
    exact ⟨stage', hallows, ih reply hnext⟩

/-- A protocol may be a part of another one, in which its stages have their counterparts. -/
theorem Program.Follows.embed {Stage' : Type} {p' : Protocol Stage'} {ends : Stage → α → Prop}
    {ends' : Stage' → α → Prop} (f : Stage → Stage')
    (hholds : ∀ stage t, p'.holds (f stage) t → p.holds stage t)
    (hallows : ∀ stage before r reply after stage', p.allows stage before r reply after stage' →
      p'.allows (f stage) before r reply after (f stage'))
    (hends : ∀ stage a, ends stage a → ends' (f stage) a) {program : Program Location α}
    {stage : Stage} (h : program.Follows working p ends stage) :
    program.Follows working p' ends' (f stage) := by
  induction program generalizing stage with
  | done a => exact hends stage a h
  | call r next ih =>
    intro before reply after hbefore hanswers
    obtain ⟨stage', hallowed, hnext⟩ := h before reply after (hholds _ _ hbefore) hanswers
    exact ⟨f stage', hallows _ _ _ _ _ _ hallowed, ih reply hnext⟩

namespace Task

/-- A task follows a protocol and, if it ends well, ends as it should; how it fails is left open. -/
def Follows (working : Location) (p : Protocol Stage) (ends : Stage → α → Prop)
    (task : Task Location ε α) (stage : Stage) : Prop :=
  Program.Follows working p (fun stage' result => ∀ a, result = .ok a → ends stage' a) task.run stage

variable {ends : Stage → α → Prop} {stage : Stage}

theorem Follows.pure {a : α} (h : ends stage a) :
    Follows working p ends (pure a : Task Location ε α) stage := by
  intro a' ha
  cases ha
  exact h

theorem Follows.throw (e : ε) : Follows working p ends (throw e : Task Location ε α) stage := by
  intro a ha
  cases ha

theorem Follows.ofResult {x : Except ε α} (h : ∀ a, x = .ok a → ends stage a) :
    Follows working p ends (ExceptT.mk (Pure.pure x) : Task Location ε α) stage :=
  h

theorem Follows.bind {ends' : Stage → β → Prop} {x : Task Location ε α}
    {f : α → Task Location ε β} (h : Follows working p ends x stage)
    (hf : ∀ stage' a, ends stage' a → Follows working p ends' (f a) stage') :
    Follows working p ends' (x >>= f) stage := by
  refine Program.Follows.bind (f := ExceptT.bindCont f) h ?_
  intro stage' result hends
  cases result with
  | ok a => exact hf stage' a (hends a rfl)
  | error e =>
    intro b hb
    cases hb

/-- A call is followed by what its reply leads to. -/
theorem Follows.call {r : Request Location} {f : r.Reply → Task Location ε α}
    (h : ∀ before reply after, p.holds stage before → r.Answers working before reply after →
      ∃ stage', p.allows stage before r reply after stage' ∧
        Follows working p ends (f reply) stage') :
    Follows working p ends (request r >>= f) stage :=
  h

/-- A task can be a single call. -/
theorem Follows.request (r : Request Location) {ends : Stage → r.Reply → Prop}
    (h : ∀ before reply after, p.holds stage before → r.Answers working before reply after →
      ∃ stage', p.allows stage before r reply after stage' ∧ ends stage' reply) :
    Follows working p ends (request r : Task Location ε r.Reply) stage := by
  intro before reply after hholds hanswers
  obtain ⟨stage', hallows, hends⟩ := h before reply after hholds hanswers
  refine ⟨stage', hallows, ?_⟩
  intro reply' hreply
  cases hreply
  exact hends

/-- How a task names its failures does not matter. -/
theorem Follows.adapt (f : ε → ε') {task : Task Location ε α}
    (h : Follows working p ends task stage) :
    Follows working p ends (ExceptT.adapt f task : Task Location ε' α) stage := by
  show Program.Follows working p _ (Program.bind task.run _) stage
  refine Program.Follows.bind h ?_
  intro stage' result hends a ha
  cases result with
  | ok b =>
    cases ha
    exact hends a rfl
  | error e => cases ha

/-- A program stays at a stage that allows all its calls and has each lead back to it. -/
theorem Follows.of_calls {task : Task Location ε α}
    (h : Calls (fun r => ∀ before reply after, p.holds stage before →
      r.Answers working before reply after → p.allows stage before r reply after stage) task) :
    Follows working p (fun stage' _ => stage' = stage) task stage := by
  have hcalls := calls_iff.mp h
  show Program.Follows working p _ task.run stage
  generalize task.run = program at hcalls
  induction program with
  | done result => exact fun _ _ => rfl
  | call r next ih =>
    intro before reply after hholds hanswers
    exact ⟨stage, hcalls.1 before reply after hholds hanswers, ih reply (hcalls.2 reply)⟩

theorem Follows.embed {Stage' : Type} {p' : Protocol Stage'} {ends' : Stage' → α → Prop}
    (f : Stage → Stage') (hholds : ∀ stage t, p'.holds (f stage) t → p.holds stage t)
    (hallows : ∀ stage before r reply after stage', p.allows stage before r reply after stage' →
      p'.allows (f stage) before r reply after (f stage'))
    (hends : ∀ stage a, ends stage a → ends' (f stage) a) {task : Task Location ε α}
    (h : Follows working p ends task stage) : Follows working p' ends' task (f stage) :=
  Program.Follows.embed f hholds hallows (fun stage _ h a ha => hends stage a (h a ha)) h

theorem Follows.program {task : Task Location ε α} (h : Follows working p ends task stage) :
    Program.Follows working p (fun stage' result => ∀ a, result = .ok a → ends stage' a) task.run
      stage :=
  h

-- From here on tasks are told apart by these lemmas, and not by running them.
attribute [irreducible] Follows

end Task

/-- Whether a program is done, and well. -/
def Program.isDoneWell : Program Location (Except ε α) → Bool
  | done result => result.isOk
  | call .. => false

theorem Program.exists_of_isDoneWell {program : Program Location (Except ε α)}
    (h : program.isDoneWell = true) : ∃ a, program = .done (.ok a) := by
  cases program with
  | done result =>
    cases result with
    | ok a => exact ⟨a, rfl⟩
    | error e => cases h
  | call r next => cases h

/-! ## All programs together -/

namespace Shared

variable {ι : Type} [DecidableEq ι]

/-- An invariant that every allowed call preserves holds wherever programs come to that follow their
protocols, and they still follow them. -/
theorem Reaches.exists_stages {protocol : ι → Protocol Stage} {ends : ι → Stage → α → Prop}
    {start s : Shared ι α} {turns : List (Turn ι)} {first : ι → Stage}
    (invariant : (ι → Stage) → List (Turn ι) → Tree → Prop)
    (hstart : invariant first [] start.tree)
    (hfollow : ∀ i, (start.rest i).Follows working (protocol i) (ends i) (first i))
    (hholds : ∀ stages turns t i, invariant stages turns t → (protocol i).holds (stages i) t)
    (hstep : ∀ stages turns t i r reply after stage', invariant stages turns t →
      (protocol i).allows (stages i) t r reply after stage' →
      invariant (Function.update stages i stage') (⟨t, i, r, reply⟩ :: turns) after)
    (h : Reaches working start turns s) :
    ∃ stages, invariant stages turns s.tree ∧
      ∀ i, (s.rest i).Follows working (protocol i) (ends i) (stages i) := by
  induction h with
  | start => exact ⟨first, hstart, hfollow⟩
  | @turn turns s who request next reply after before call answers ih =>
    obtain ⟨stages, hinvariant, hfollows⟩ := ih
    -- Only the one whose turn it is comes to another stage; the invariant speaks for the others.
    have hwho := hfollows who
    rw [call] at hwho
    obtain ⟨stage', hallows, hnext⟩ :=
      hwho s.tree reply after (hholds stages turns s.tree who hinvariant) answers
    refine ⟨Function.update stages who stage',
      hstep stages turns s.tree who request reply after stage' hinvariant hallows, ?_⟩
    intro i
    show (Function.update s.rest who (next reply) i).Follows working (protocol i) (ends i)
      (Function.update stages who stage' i)
    by_cases hi : i = who
    · subst hi
      rw [Function.update_self, Function.update_self]
      exact hnext
    · rw [Function.update_of_ne hi, Function.update_of_ne hi]
      exact hfollows i

theorem Reaches.trans {start middle s : Shared ι α} {turns more : List (Turn ι)}
    (h : Reaches working start turns middle) (hmore : Reaches working middle more s) :
    Reaches working start (more ++ turns) s := by
  induction hmore with
  | start => exact h
  | turn before call answers ih => exact ih.turn call answers

/-! ## In a given order -/

/-- A world answers in one of the ways in which a call may be answered. -/
theorem answers_answer (w : World) (r : Request Location) :
    r.Answers w.working w.tree (w.answer r).1 (w.answer r).2.tree ∧
      (w.answer r).2.working = w.working := by
  cases r with
  | stat p => exact ⟨.inl ⟨rfl, rfl⟩, rfl⟩
  | read p => exact ⟨.inl ⟨rfl, rfl⟩, rfl⟩
  | write l bytes =>
    refine ⟨.inl ⟨bytes.length, Nat.le_refl _, rfl, ?_⟩, rfl⟩
    rw [List.take_length]
    rfl
  | settle l => exact ⟨rfl, rfl⟩
  | settleDirectory p => exact ⟨rfl, rfl⟩
  | random length => exact ⟨rfl, rfl⟩
  | inputLine => exact ⟨rfl, rfl⟩
  | report event => exact ⟨rfl, rfl⟩
  | makeDirectory p =>
    simp only [World.answer]
    cases h : w.tree.makeDirectory w.working p with
    | ok t => exact ⟨.inl ⟨rfl, h⟩, rfl⟩
    | error e => exact ⟨.inr ⟨⟨e, rfl⟩, rfl⟩, rfl⟩
  | createNew p mode =>
    simp only [World.answer]
    cases h : w.tree.createNew w.working p mode with
    | ok made => exact ⟨.inl ⟨made.1, rfl, h⟩, rfl⟩
    | error e => exact ⟨.inr ⟨⟨e, rfl⟩, rfl⟩, rfl⟩
  | rename source target =>
    simp only [World.answer]
    cases h : w.tree.rename w.working source target with
    | ok t => exact ⟨.inl ⟨rfl, h⟩, rfl⟩
    | error e => exact ⟨.inr ⟨⟨e, rfl⟩, rfl⟩, rfl⟩
  | remove p =>
    simp only [World.answer]
    cases h : w.tree.remove w.working p with
    | ok t => exact ⟨.inl ⟨rfl, h⟩, rfl⟩
    | error e => exact ⟨.inr ⟨⟨e, rfl⟩, rfl⟩, rfl⟩

/-- Whoever has a call to make can make it, with the reply that a world gives. -/
theorem Reaches.turn_answer {start s : Shared ι α} {turns : List (Turn ι)} {i : ι} {w : World}
    {r : Request Location} {next : r.Reply → Program Location α}
    (h : Reaches w.working start turns s) (htree : s.tree = w.tree) (hcall : s.rest i = .call r next) :
    Reaches (w.answer r).2.working start (⟨s.tree, i, r, (w.answer r).1⟩ :: turns)
      ⟨(w.answer r).2.tree, Function.update s.rest i (next (w.answer r).1)⟩ := by
  obtain ⟨hanswers, hworking⟩ := answers_answer w r
  rw [← htree] at hanswers
  rw [hworking]
  exact h.turn hcall hanswers

/-- One of the programs can take all its turns in a row, with the replies that a world gives. -/
theorem Reaches.run {start s : Shared ι α} {turns : List (Turn ι)} {i : ι} {w : World}
    {program : Program Location α} (h : Reaches w.working start turns s) (htree : s.tree = w.tree)
    (hrest : s.rest i = program) :
    ∃ turns', Reaches w.working start turns'
      ⟨(program.run w).2.tree, Function.update s.rest i (.done (program.run w).1)⟩ := by
  induction program generalizing s turns w with
  | done a =>
    refine ⟨turns, ?_⟩
    show Reaches w.working start turns ⟨w.tree, Function.update s.rest i (.done a)⟩
    rw [← hrest, Function.update_eq_self, ← htree]
    exact h
  | call r next ih =>
    -- The first call is one turn more, and what is left of the program runs from there.
    obtain ⟨turns', hrun⟩ := ih (w.answer r).1 (h.turn_answer htree hrest) rfl
      (Function.update_self ..)
    rw [(answers_answer w r).2, Function.update_idem] at hrun
    exact ⟨turns', hrun⟩

/-- Programs that take their turns in a given order, with the replies that a world gives, up to the
world and the rests that are left then. -/
def takeTurns (w : World) (rest : ι → Program Location α) :
    List ι → World × (ι → Program Location α)
  | [] => (w, rest)
  | i :: order =>
    match rest i with
    | .done _ => takeTurns w rest order
    | .call r next =>
      takeTurns (w.answer r).2 (Function.update rest i (next (w.answer r).1)) order

theorem working_takeTurns (w : World) (rest : ι → Program Location α) (order : List ι) :
    (takeTurns w rest order).1.working = w.working := by
  induction order generalizing w rest with
  | nil => rfl
  | cons i order ih =>
    unfold takeTurns
    cases rest i with
    | done a => exact ih w rest
    | call r next => exact (ih ..).trans (answers_answer w r).2

/-- Every order of turns is one in which programs can take them. -/
theorem Reaches.takeTurns {start : Shared ι α} {turns : List (Turn ι)} {w : World}
    {rest : ι → Program Location α} (order : List ι)
    (h : Reaches working start turns ⟨w.tree, rest⟩) (hworking : w.working = working) :
    ∃ more, Reaches working start (more ++ turns)
      ⟨(takeTurns w rest order).1.tree, (takeTurns w rest order).2⟩ := by
  induction order generalizing turns w rest with
  | nil => exact ⟨[], h⟩
  | cons i order ih =>
    unfold Shared.takeTurns
    cases hrest : rest i with
    -- Whoever is done lets the turn pass.
    | done a => exact ih h hworking
    | call r next =>
      subst hworking
      have hsame := (answers_answer w r).2
      obtain ⟨more, hmore⟩ := ih (hsame ▸ h.turn_answer rfl hrest) hsame
      rw [List.append_cons] at hmore
      exact ⟨_, hmore⟩

end Shared

end Sealing
