import Sealing.Proofs.CommandLine.FreshOutput
import Sealing.Proofs.Storage.Taken
/-!
# Commands that write to one fresh path at the same time

A command that makes a new file asks in its first call whether something stands at its path, and
moves the file there in one of its last.  Nothing holds the path for it in between, so that of two
commands that have both asked before either moved its file the second replaces what the first one has
reported as written (`keygens_both_succeed`).  That is the only way in which two can succeed: whoever
asks when a file has come to the path does not write there any more (`writers_looked_first`).
-/

namespace Sealing

open FileSystem Tree

/-- The call of the turn moved a file. -/
def Turn.Moves {ι : Type} (turn : Turn ι) : Prop := turn.request.moved turn.reply = true

theorem Request.eq_of_leavesFiles {r : Request Location} (h : r.leavesFiles = true)
    {working : Location} {before after : Tree} {reply : r.Reply}
    (hanswers : r.Answers working before reply after) :
    after = before ∧ r.moved reply = false := by
  cases r with
  | stat p =>
    rcases hanswers with ⟨-, rfl⟩ | ⟨-, rfl⟩
    · exact ⟨rfl, rfl⟩
    · exact ⟨rfl, rfl⟩
  | read p =>
    rcases hanswers with ⟨-, rfl⟩ | ⟨-, rfl⟩
    · exact ⟨rfl, rfl⟩
    · exact ⟨rfl, rfl⟩
  | random length => exact ⟨hanswers, rfl⟩
  | inputLine => exact ⟨hanswers, rfl⟩
  | report event => exact ⟨hanswers, rfl⟩
  | makeDirectory p => cases h
  | createNew p mode => cases h
  | write l bytes => cases h
  | settle l => cases h
  | rename source target => cases h
  | remove p => cases h
  | settleDirectory p => cases h

namespace CommandLine

/-! ## One command -/

/-- How far a command that makes a new file has come. -/
inductive Writing where
  | unchecked
  /-- It found something at its path. -/
  | barred
  /-- It found nothing there, on a tree and for a cause, and has come to some stage of its save. -/
  | saving (seen : Tree) (cause : SystemError) (stage : Storage.Stage)

namespace Writing

/-- The stage of the save; one that has not begun has nothing in the tree. -/
def stage : Writing → Storage.Stage
  | saving _ _ stage => stage
  | _ => .idle

/-- What a call of such a command can do, and how far it comes by it. -/
inductive Step (working : Location) (path : Path) :
    Writing → Tree → (r : Request Location) → r.Reply → Tree → Writing → Prop where
  | taken (t : Tree) (kind : Kind) : Step working path unchecked t (.stat path) (.ok kind) t barred
  | free (t : Tree) (cause : SystemError) :
      Step working path unchecked t (.stat path) (.error cause) t (saving t cause .idle)
  | save {seen t t' : Tree} {cause : SystemError} {stage stage' : Storage.Stage}
      {r : Request Location} {reply : r.Reply} {content : List UInt8}
      (effect : Storage.Effect working path content stage t (r.moved reply) t' stage') :
      Step working path (saving seen cause stage) t r reply t' (saving seen cause stage')

def protocol (working : Location) (path : Path) : Protocol Writing where
  holds := fun writing => writing.stage.Holds working path
  allows := Step working path

variable {working : Location} {path : Path} {seen t t' : Tree} {cause : SystemError}
  {writing writing' : Writing} {r : Request Location} {reply : r.Reply}

/-- To the tree a call does no more than one of a save. -/
theorem Step.exists_effect (h : Step working path writing t r reply t' writing') :
    ∃ content,
      Storage.Effect working path content writing.stage t (r.moved reply) t' writing'.stage := by
  cases h with
  | taken kind => exact ⟨[], .nothing⟩
  | free cause => exact ⟨[], .nothing⟩
  | save effect => exact ⟨_, effect⟩

theorem expectFresh_follows :
    Task.Follows working (protocol working path)
      (fun writing' _ => ∃ seen cause, writing' = saving seen cause .idle)
      (expectFresh path : Task Location Failure Unit) unchecked := by
  have hcall : (expectFresh path : Task Location Failure Unit) =
      Task.request (.stat path) >>= fun (reply : Except SystemError Kind) =>
        if reply.isOk then throw (.plain (path.text ++ " already exists")) else pure () := by
    refine congrArg (Program.call (.stat path)) (funext fun reply => ?_)
    cases reply with
    | ok kind => rfl
    | error cause => rfl
  rw [hcall]
  refine .call fun before reply after _ hanswers => ?_
  obtain ⟨rfl, -⟩ := Request.eq_of_leavesFiles rfl hanswers
  cases reply with
  | ok kind => exact ⟨barred, .taken after kind, .throw _⟩
  | error cause => exact ⟨_, .free after cause, .pure ⟨after, cause, rfl⟩⟩

/-- Making the content leaves a command where it is. -/
theorem reads_follows {content : Task Location Failure (List UInt8)} (h : Task.Reads content) :
    Task.Follows working (protocol working path)
      (fun writing' _ => writing' = saving seen cause .idle) content (saving seen cause .idle) := by
  refine .of_calls (h.mono fun r hr before reply after _ hanswers => ?_)
  obtain ⟨rfl, hmoved⟩ := Request.eq_of_leavesFiles hr hanswers
  have hnothing : Storage.Effect working path [] .idle after (r.moved reply) after .idle := by
    rw [hmoved]
    exact .nothing
  exact .save hnothing

theorem save_follows (content : List UInt8) :
    Task.Follows working (protocol working path)
      (fun writing' _ => writing' = saving seen cause .moved) (step (Storage.save ⟨path⟩ content))
      (saving seen cause .idle) := by
  have hsave : Task.Follows working (Storage.protocol working path content)
      (fun stage' _ => stage' = .moved) (Storage.save ⟨path⟩ content) .idle :=
    Storage.save_follows
  refine Task.Follows.adapt _ (hsave.embed (saving seen cause) ?_ ?_ ?_)
  · exact fun _ _ hholds => hholds
  · exact fun _ _ _ _ _ _ heffect => .save heffect
  · rintro _ _ rfl
    rfl

/-- A command that ends well has found nothing at its path and has moved its file there. -/
theorem writeFresh_follows {content : Task Location Failure (List UInt8)} {done : String}
    (h : Task.Reads content) :
    Task.Follows working (protocol working path)
      (fun writing' _ => ∃ seen cause, writing' = saving seen cause .moved)
      (writeFresh path content done) unchecked := by
  unfold writeFresh
  refine expectFresh_follows.bind ?_
  rintro _ _ ⟨seen, cause, rfl⟩
  refine (reads_follows h).bind ?_
  rintro _ bytes rfl
  refine (save_follows bytes).bind ?_
  rintro _ _ rfl
  exact .pure ⟨seen, cause, rfl⟩

end Writing

/-! ## All commands together -/

section

variable {ι : Type} {working : Location} {path : Path} {turns before : List (Turn ι)}
  {t t' now seen : Tree} {cause : SystemError} {i : ι} {turn : Turn ι}

/-- In its first turn a command looked at the path, on a tree, and found nothing; the turns of others
before that were these. -/
def LookedFirst (path : Path) (i : ι) (seen : Tree) (cause : SystemError)
    (turns before : List (Turn ι)) : Prop :=
  (∃ later, turns = later ++ ⟨seen, i, .stat path, .error cause⟩ :: before) ∧
    ∀ turn ∈ before, turn.who ≠ i

theorem LookedFirst.cons (h : LookedFirst path i seen cause turns before) (turn : Turn ι) :
    LookedFirst path i seen cause (turn :: turns) before := by
  obtain ⟨⟨later, rfl⟩, hfirst⟩ := h
  exact ⟨⟨turn :: later, rfl⟩, hfirst⟩

/-- What is true of a turn that moved a file, with the turns behind it and those in front of it. -/
structure Moved (working : Location) (path : Path) (later : List (Turn ι)) (turn : Turn ι)
    (earlier : List (Turn ι)) (now : Tree) : Prop where
  /-- Who moved the file had looked before any was moved, unless the tree was not asked. -/
  looked : ∃ seen cause before, LookedFirst path turn.who seen cause earlier before ∧
    (seen.stat working path = .error cause → ∀ other ∈ before, ¬other.Moves)
  taken : ∀ t ∈ moments later now, Storage.Taken working path t
  /-- The file stays until another one is moved. -/
  stays : (∀ other ∈ later, ¬other.Moves) →
    ∃ l content, turn.before.Names working path l ∧
      ∀ t ∈ moments later now, t.find? l = some (.file content Storage.fileMode)

/-- What holds at every moment, with the points to which the commands have come. -/
structure Invariant (working : Location) (path : Path) (writings : ι → Writing)
    (turns : List (Turn ι)) (now : Tree) : Prop where
  holds : ∀ i, (writings i).stage.Holds working path now
  apart : ∀ i j l, (writings i).stage.location? = some l → (writings j).stage.location? = some l →
    i = j
  overlays : ∀ earlier ∈ moments turns now, Overlays path earlier now
  ready : ∀ i l, (writings i).stage.location? = some l → Storage.Ready working path now
  /-- No way is new since the directory of the path has been there. -/
  settled : ∀ earlier ∈ moments turns now, Storage.Ready working path earlier →
    KeepsWays now earlier
  untouched : ∀ i, writings i = .unchecked → ∀ turn ∈ turns, turn.who ≠ i
  looked : ∀ i seen cause stage, writings i = .saving seen cause stage →
    ∃ before, LookedFirst path i seen cause turns before
  moved : ∀ later turn earlier, turns = later ++ turn :: earlier → turn.Moves →
    Moved working path later turn earlier now
  done : ∀ i seen cause, writings i = .saving seen cause .moved →
    ∃ turn ∈ turns, turn.who = i ∧ turn.Moves

namespace Invariant

variable {writings : ι → Writing} {writing' : Writing} {r : Request Location} {reply : r.Reply}

theorem init (working : Location) (path : Path) (t : Tree) :
    Invariant working path (fun _ : ι => .unchecked) [] t where
  holds := fun _ => trivial
  apart := by
    intro i j l hi
    cases hi
  overlays := by
    intro earlier hearlier
    rw [List.mem_singleton.mp hearlier]
    exact .refl path t
  ready := by
    intro i l hi
    cases hi
  settled := by
    intro earlier hearlier _
    rw [List.mem_singleton.mp hearlier]
    exact .refl _ t
  untouched := fun _ _ _ hturn => nomatch hturn
  looked := by
    intro i seen cause stage hi
    cases hi
  moved := by
    intro later turn earlier hturns
    exact absurd hturns.symm (List.append_ne_nil_of_right_ne_nil _ (List.cons_ne_nil _ _))
  done := by
    intro i seen cause hi
    cases hi

section

variable (h : Invariant working path writings turns t)

include h

/-- If a file had been moved when a command looked at the path, one was there. -/
theorem taken_of_looked (hlooked : LookedFirst path i seen cause turns before) {other : Turn ι}
    (hother : other ∈ before) (hmoves : other.Moves) :
    seen ∈ moments turns t ∧ Storage.Taken working path seen := by
  obtain ⟨⟨later, rfl⟩, -⟩ := hlooked
  obtain ⟨between, rest, rfl⟩ := List.append_of_mem hother
  have hmem (turns : List (Turn ι)) : seen ∈ moments
      (later ++ (⟨seen, i, .stat path, .error cause⟩ : Turn ι) :: turns) t := by
    refine List.mem_cons_of_mem _ (List.mem_map.mpr ⟨⟨seen, i, .stat path, .error cause⟩, ?_, rfl⟩)
    exact List.mem_append_right _ List.mem_cons_self
  have hmoved := h.moved (later ++ ⟨seen, i, .stat path, .error cause⟩ :: between) other rest
    (by rw [List.append_assoc, List.cons_append]) hmoves
  exact ⟨hmem _, hmoved.taken seen (hmem _)⟩

end

variable (h : Invariant working path writings turns t)
  (hstep : Writing.Step working path (writings i) t r reply t' writing')

include h hstep

theorem overlays_call : Overlays path t t' := by
  obtain ⟨content, heffect⟩ := hstep.exists_effect
  exact heffect.overlays (h.holds i)

theorem overlays_step {earlier : Tree}
    (hearlier : earlier ∈ moments (⟨t, i, r, reply⟩ :: turns) t') : Overlays path earlier t' := by
  rcases List.mem_cons.mp hearlier with rfl | hearlier
  · exact .refl path earlier
  · exact (h.overlays earlier hearlier).trans (h.overlays_call hstep)

theorem settled_step {earlier : Tree} (hearlier : earlier ∈ moments (⟨t, i, r, reply⟩ :: turns) t')
    (hready : Storage.Ready working path earlier) : KeepsWays t' earlier := by
  obtain ⟨content, heffect⟩ := hstep.exists_effect
  rcases List.mem_cons.mp hearlier with rfl | hearlier
  · exact .refl _ earlier
  · have hnow := hready.of_overlays (h.overlays earlier hearlier)
    exact (heffect.keepsWays (h.holds i) hnow).trans (h.settled earlier hearlier hready)

/-- Who moves a file looked before any was moved: a file that had been there already would have been
seen, for the path leads to the same place as it did then. -/
theorem moved_of_moves (hmoves : r.moved reply = true) :
    Moved working path [] ⟨t, i, r, reply⟩ turns t' := by
  have hholds := h.holds i
  generalize hwriting : writings i = writing at hstep hholds
  cases hstep with
  | taken kind => cases hmoves
  | free cause => cases hmoves
  | @save seen _ _ cause _ _ _ _ content effect =>
    rw [hmoves] at effect
    obtain ⟨own, hown⟩ := effect.exists_location
    have hready : Storage.Ready working path t := h.ready i own (by rw [hwriting]; exact hown)
    obtain ⟨before, hlooked⟩ := h.looked i _ _ _ hwriting
    obtain ⟨l, hl, hfile⟩ := effect.exists_names hholds
    refine ⟨⟨seen, cause, before, hlooked, ?_⟩, ?_, fun _ => ⟨l, content, hl, ?_⟩⟩
    · intro hseen other hother hother'
      obtain ⟨hmoment, htaken⟩ := h.taken_of_looked hlooked hother hother'
      rw [htaken.stat_of_names (h.settled _ hmoment htaken.ready) hl] at hseen
      cases hseen
    · intro now hnow
      rw [List.mem_singleton.mp hnow]
      exact effect.taken hholds hready
    · intro now hnow
      rw [List.mem_singleton.mp hnow]
      exact hfile

/-- A call of another turn changes nothing of this, and a file is replaced only by moving another. -/
theorem moved_later {later earlier : List (Turn ι)}
    (hmoved : Moved working path later turn earlier t) :
    Moved working path (⟨t, i, r, reply⟩ :: later) turn earlier t' := by
  refine ⟨hmoved.looked, ?_, ?_⟩
  · intro now hnow
    rcases List.mem_cons.mp hnow with rfl | hnow
    · exact (hmoved.taken t List.mem_cons_self).of_overlays (h.overlays_call hstep)
    · exact hmoved.taken now hnow
  · intro hnone
    obtain ⟨l, content, hl, hstays⟩ :=
      hmoved.stays fun other hother => hnone other (List.mem_cons_of_mem _ hother)
    refine ⟨l, content, hl, fun now hnow => ?_⟩
    rcases List.mem_cons.mp hnow with rfl | hnow
    · obtain ⟨written, heffect⟩ := hstep.exists_effect
      have hunmoved : r.moved reply = false :=
        Bool.eq_false_iff.mpr (hnone _ List.mem_cons_self)
      rw [hunmoved] at heffect
      exact heffect.keeps_target (h.holds i) hl.endsIn (hstays t List.mem_cons_self)
    · exact hstays now hnow

theorem moved_step {later earlier : List (Turn ι)}
    (hturns : (⟨t, i, r, reply⟩ : Turn ι) :: turns = later ++ turn :: earlier)
    (hmoves : turn.Moves) : Moved working path later turn earlier t' := by
  cases later with
  | nil =>
    obtain ⟨rfl, rfl⟩ := List.cons.inj hturns
    exact h.moved_of_moves hstep hmoves
  | cons last later =>
    obtain ⟨hlast, hearlier⟩ := List.cons.inj hturns
    subst hlast
    exact h.moved_later hstep (h.moved later turn earlier hearlier hmoves)

variable [DecidableEq ι]

omit h hstep in
theorem stage_update (writings : ι → Writing) (i : ι) (writing' : Writing) (j : ι) :
    (Function.update writings i writing' j).stage =
      Function.update (fun k => (writings k).stage) i writing'.stage j :=
  Function.apply_update (fun _ => Writing.stage) writings i writing' j

theorem holds_step (j : ι) :
    (Function.update writings i writing' j).stage.Holds working path t' := by
  obtain ⟨content, heffect⟩ := hstep.exists_effect
  rw [stage_update]
  exact heffect.holds_update (fun k => (writings k).stage) h.holds h.apart j

theorem apart_step {j k : ι} {l : Location}
    (hj : (Function.update writings i writing' j).stage.location? = some l)
    (hk : (Function.update writings i writing' k).stage.location? = some l) : j = k := by
  obtain ⟨content, heffect⟩ := hstep.exists_effect
  rw [stage_update] at hj hk
  exact heffect.apart_update (fun k => (writings k).stage) h.holds h.apart j k l hj hk

theorem ready_step {j : ι} {l : Location}
    (hl : (Function.update writings i writing' j).stage.location? = some l) :
    Storage.Ready working path t' := by
  have hoverlays := h.overlays_call hstep
  obtain ⟨content, heffect⟩ := hstep.exists_effect
  by_cases hj : j = i
  · subst hj
    rw [Function.update_self] at hl
    rcases heffect.ready_or hl with hbefore | hready
    · exact (h.ready j l hbefore).of_overlays hoverlays
    · exact hready.of_overlays hoverlays
  · rw [Function.update_of_ne hj] at hl
    exact (h.ready j l hl).of_overlays hoverlays

theorem untouched_step {j : ι} (hj : Function.update writings i writing' j = .unchecked) :
    ∀ turn ∈ (⟨t, i, r, reply⟩ : Turn ι) :: turns, turn.who ≠ j := by
  by_cases hji : j = i
  · subst hji
    rw [Function.update_self] at hj
    rw [hj] at hstep
    generalize writings j = writing at hstep
    cases hstep
  · rw [Function.update_of_ne hji] at hj
    intro turn hturn
    rcases List.mem_cons.mp hturn with rfl | hturn
    · exact fun heq => hji heq.symm
    · exact h.untouched j hj turn hturn

theorem looked_step {j : ι} {stage : Storage.Stage}
    (hj : Function.update writings i writing' j = .saving seen cause stage) :
    ∃ before, LookedFirst path j seen cause (⟨t, i, r, reply⟩ :: turns) before := by
  by_cases hji : j = i
  · subst hji
    rw [Function.update_self] at hj
    rw [hj] at hstep
    generalize hwriting : writings j = writing at hstep
    cases hstep with
    | free => exact ⟨turns, ⟨[], rfl⟩, h.untouched j hwriting⟩
    | save effect =>
      obtain ⟨before, hlooked⟩ := h.looked j seen cause _ hwriting
      exact ⟨before, hlooked.cons _⟩
  · rw [Function.update_of_ne hji] at hj
    obtain ⟨before, hlooked⟩ := h.looked j seen cause stage hj
    exact ⟨before, hlooked.cons _⟩

theorem done_step {j : ι} (hj : Function.update writings i writing' j = .saving seen cause .moved) :
    ∃ turn ∈ (⟨t, i, r, reply⟩ : Turn ι) :: turns, turn.who = j ∧ turn.Moves := by
  have later (hdone : ∃ turn ∈ turns, turn.who = j ∧ turn.Moves) :
      ∃ turn ∈ (⟨t, i, r, reply⟩ : Turn ι) :: turns, turn.who = j ∧ turn.Moves := by
    obtain ⟨turn, hturn, hmoves⟩ := hdone
    exact ⟨turn, List.mem_cons_of_mem _ hturn, hmoves⟩
  by_cases hji : j = i
  · subst hji
    rw [Function.update_self] at hj
    rw [hj] at hstep
    generalize hwriting : writings j = writing at hstep
    cases hstep with
    | save effect =>
      cases hmoves : r.moved reply with
      | true => exact ⟨_, List.mem_cons_self, rfl, hmoves⟩
      | false =>
        rw [hmoves] at effect
        obtain rfl := effect.eq_moved
        exact later (h.done j seen cause hwriting)
  · rw [Function.update_of_ne hji] at hj
    exact later (h.done j seen cause hj)

/-- Every call that a command may make preserves the invariant. -/
theorem step : Invariant working path (Function.update writings i writing')
    (⟨t, i, r, reply⟩ :: turns) t' where
  holds := h.holds_step hstep
  apart := fun _ _ _ hj hk => h.apart_step hstep hj hk
  overlays := fun _ hearlier => h.overlays_step hstep hearlier
  ready := fun _ _ hl => h.ready_step hstep hl
  settled := fun _ hearlier hready => h.settled_step hstep hearlier hready
  untouched := fun _ hj => h.untouched_step hstep hj
  looked := fun _ _ _ _ hj => h.looked_step hstep hj
  moved := fun _ _ _ hturns hmoves => h.moved_step hstep hturns hmoves
  done := fun _ _ _ hj => h.done_step hstep hj

end Invariant

end

/-! ## Any number of runs -/

/-- The runs of some commands on one tree, none of which has had a turn. -/
def runs {ι : Type} (env : ι → Environment) (command : ι → Command) (start : Tree) :
    Shared ι (Except Failure String) where
  tree := start
  rest i := ((command i).program (env i)).run

/-- The run of a command has come to its end, with the exit code of success. -/
def Succeeded {ι : Type} (s : Shared ι (Except Failure String)) (i : ι) : Prop :=
  ∃ result, s.rest i = .done result ∧ (Exit.ofResult result).code = 0

/-- Commands that make a new file at one path, in whichever order they take turns and wherever they
stop.  One that ends well has moved its file.  Whoever moves a file looked at the path first and found
nothing, and unless the system refused it the look, no file had been moved until then; so of two that
end well each looked before either moved its file.  A file that was moved stays until another one is
moved. -/
theorem writers_looked_first {ι : Type} [DecidableEq ι] {working : Location} {output : Path}
    {env : ι → Environment} {command : ι → Command} {start : Tree} {turns : List (Turn ι)}
    {s : Shared ι (Except Failure String)}
    (hfresh : ∀ i, ∃ content, (command i).fresh? (env i) = some (output, content))
    (h : Shared.Reaches working (runs env command start) turns s) :
    (∀ i, Succeeded s i → ∃ turn ∈ turns, turn.who = i ∧ turn.Moves) ∧
    ∀ later turn earlier, turns = later ++ turn :: earlier → turn.Moves →
      (∃ seen cause before, LookedFirst output turn.who seen cause earlier before ∧
        (seen.stat working output = .error cause → ∀ other ∈ before, ¬other.Moves)) ∧
      ((∀ other ∈ later, ¬other.Moves) →
        ∃ l content, turn.before.Names working output l ∧
          ∀ t ∈ moments later s.tree,
            t.find? l = some (.file content Storage.fileMode)) := by
  have hfollow (i : ι) : ((runs env command start).rest i).Follows working
      (Writing.protocol working output)
      (fun writing result => ∀ shown, result = .ok shown →
        ∃ seen cause, writing = .saving seen cause .moved) .unchecked := by
    obtain ⟨content, hcontent⟩ := hfresh i
    obtain ⟨hreads, done, hprogram⟩ := writeFresh_of_fresh? hcontent
    show ((command i).program (env i)).run.Follows working _ _ _
    rw [hprogram]
    exact (Writing.writeFresh_follows hreads).program
  obtain ⟨writings, hinvariant, hfollows⟩ :=
    h.exists_stages (Invariant working output) (.init working output start) hfollow
      (fun _ _ _ i hinvariant => hinvariant.holds i)
      (fun _ _ _ _ _ _ _ _ hinvariant hallows => hinvariant.step hallows)
  constructor
  · rintro i ⟨result, hdone, hcode⟩
    obtain ⟨shown, rfl⟩ := code_ofResult_eq_zero_iff.mp hcode
    have hends := hfollows i
    rw [hdone] at hends
    obtain ⟨seen, cause, hwriting⟩ := hends shown rfl
    exact hinvariant.done i seen cause hwriting
  · intro later turn earlier hturns hmoves
    have hmoved := hinvariant.moved later turn earlier hturns hmoves
    exact ⟨hmoved.looked, hmoved.stays⟩

/-- Two commands that make a key file at one path, in an empty directory. -/
def twoKeygens : Shared Bool (Except Failure String) :=
  runs (fun _ => {}) (fun _ => .keygen ⟨"out.key"⟩) ⟨[]⟩

/-- A world in which every random byte is the same. -/
def uniformWorld (tree : Tree) (byte : UInt8) : World :=
  { Storage.plainWorld tree with random := fun _ => byte }

/-- A command that would succeed in a world can do so here, while the others wait. -/
theorem exists_succeeded {s : Shared Bool (Except Failure String)} {i : Bool}
    {program : Program Location (Except Failure String)} (byte : UInt8)
    (hrest : s.rest i = program)
    (hok : (program.run (uniformWorld s.tree byte)).1.isOk = true) :
    ∃ turns s', Shared.Reaches [] s turns s' ∧ Succeeded s' i ∧
      s'.tree = (program.run (uniformWorld s.tree byte)).2.tree ∧
      ∀ j, j ≠ i → s'.rest j = s.rest j := by
  obtain ⟨shown, hshown⟩ := Except.exists_of_isOk hok
  have hstart : Shared.Reaches (uniformWorld s.tree byte).working s [] s := .start
  obtain ⟨turns, hrun⟩ := hstart.run rfl hrest
  refine ⟨turns, _, hrun, ⟨_, Function.update_self .., ?_⟩, rfl, ?_⟩
  · rw [hshown]
    rfl
  · exact fun j hj => Function.update_of_ne hj ..

/-- What is left of a command that makes a key file once it has found nothing at its path. -/
def lookedKeygen : Task Location Failure String := do
  let bytes ← keyContent
  step (Storage.save ⟨⟨"out.key"⟩⟩ bytes)
  return "key written to " ++ "out.key" ++ "\n"

/-- Two such commands, both of which have looked. -/
def lookedKeygens : Shared Bool (Except Failure String) where
  tree := ⟨[]⟩
  rest _ := lookedKeygen.run

theorem twoKeygens_look : ∃ turns, Shared.Reaches [] twoKeygens turns lookedKeygens := by
  let w : World := uniformWorld ⟨[]⟩ 0
  have hstart : Shared.Reaches [] twoKeygens [] ⟨w.tree, twoKeygens.rest⟩ := .start
  obtain ⟨turns, hlooked⟩ := hstart.takeTurns [true, false] rfl
  have hrest : (Shared.takeTurns w twoKeygens.rest [true, false]).2 = lookedKeygens.rest := by
    funext i
    cases i with
    | true => rfl
    | false => rfl
  rw [hrest] at hlooked
  exact ⟨_, hlooked⟩

/-- Both look before either has written its key.  The first ends well with its key at the path, and
the second ends well when it has put another key in its place. -/
theorem twoKeygens_interleaved : ∃ turns middle more s,
    Shared.Reaches [] twoKeygens turns middle ∧ Succeeded middle true ∧
      middle.tree.find? ["out.key"] = some (.file (List.replicate 32 1) 0o600) ∧
    Shared.Reaches [] twoKeygens (more ++ turns) s ∧ Succeeded s true ∧ Succeeded s false ∧
      s.tree.find? ["out.key"] = some (.file (List.replicate 32 2) 0o600) := by
  obtain ⟨looks, hlooks⟩ := twoKeygens_look
  -- From here on the first takes all its turns while the second waits, and then the second its own.
  obtain ⟨turns, middle, hfirst, hdone, htree, hothers⟩ := exists_succeeded (s := lookedKeygens)
    (i := true) 1 rfl (by decide +kernel)
  have hrest : middle.rest false = lookedKeygen.run := hothers false (by decide)
  obtain ⟨more, s, hsecond, hlast, htree', hothers'⟩ := exists_succeeded (i := false) 2 hrest
    (by rw [htree]; decide +kernel)
  have hkept : Succeeded s true := by
    obtain ⟨result, hresult, hcode⟩ := hdone
    exact ⟨result, (hothers' true (by decide)).trans hresult, hcode⟩
  have hmiddle := hlooks.trans hfirst
  refine ⟨_, middle, more, s, hmiddle, hdone, ?_, hmiddle.trans hsecond, hkept, hlast, ?_⟩
  · rw [htree]
    decide +kernel
  · rw [htree', htree]
    decide +kernel

/-- Two commands that both end well have both moved their files, and each looked at the path, in its
first turn, before there was one. -/
theorem writers_looked_first_twoKeygens :
    (∀ _ : Bool, ∃ content, (Command.keygen ⟨"out.key"⟩).fresh? {} = some (⟨"out.key"⟩, content)) ∧
    ∃ turns s, Shared.Reaches [] twoKeygens turns s ∧ Succeeded s true ∧ Succeeded s false ∧
      ∀ i, ∃ later turn earlier, turns = later ++ turn :: earlier ∧ turn.who = i ∧ turn.Moves ∧
        ∃ seen cause before, LookedFirst ⟨"out.key"⟩ i seen cause earlier before ∧
          (seen.stat [] ⟨"out.key"⟩ = .error cause → ∀ other ∈ before, ¬other.Moves) := by
  have hfresh : ∀ _ : Bool, ∃ content,
      (Command.keygen ⟨"out.key"⟩).fresh? {} = some (⟨"out.key"⟩, content) :=
    fun _ => ⟨keyContent, rfl⟩
  obtain ⟨turns, -, more, s, -, -, -, hrun, hfirst, hsecond, -⟩ := twoKeygens_interleaved
  obtain ⟨hmoved, hlooked⟩ := writers_looked_first hfresh hrun
  refine ⟨hfresh, _, s, hrun, hfirst, hsecond, fun i => ?_⟩
  have hdone : Succeeded s i := by
    cases i with
    | true => exact hfirst
    | false => exact hsecond
  obtain ⟨turn, hturn, rfl, hmoves⟩ := hmoved i hdone
  obtain ⟨later, earlier, hturns⟩ := List.append_of_mem hturn
  exact ⟨later, turn, earlier, hturns, rfl, hmoves, (hlooked later turn earlier hturns hmoves).1⟩

/-- The key that the first has reported as written is replaced by the second. -/
theorem keygens_both_succeed :
    twoKeygens.tree.find? ["out.key"] = none ∧ ∃ turns middle more s,
      Shared.Reaches [] twoKeygens turns middle ∧ Succeeded middle true ∧
        middle.tree.find? ["out.key"] = some (.file (List.replicate 32 1) 0o600) ∧
      Shared.Reaches [] twoKeygens (more ++ turns) s ∧ Succeeded s true ∧ Succeeded s false ∧
        s.tree.find? ["out.key"] = some (.file (List.replicate 32 2) 0o600) :=
  ⟨by decide +kernel, twoKeygens_interleaved⟩

end CommandLine

end Sealing
