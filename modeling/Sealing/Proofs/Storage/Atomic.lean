import Sealing.Proofs.Storage.Protocol
/-!
# Saves to one path at the same time

Any number of saves to a path may take turns in any order, with any names for their temporary files,
and stop anywhere.  The target never holds a part of a content.  It is the entry that the path names,
the same one at every moment at which it names one; what stands there is what stood there before the
first turn, or the whole content of one of the saves, and after a save has ended well it is the
content of the one whose turn to move its file came last (`saves_atomic`).
-/

namespace Sealing.Storage

open FileSystem Tree

/-! ## One call -/

section Effect

variable {working : Location} {path : Path} {content : List UInt8} {stage stage' : Stage}
  {t t' : Tree} {moves : Bool} {l : Location}

/-- A temporary file is a file, and not at the target. -/
theorem Stage.Holds.hasFile (h : stage.Holds working path t) (hl : stage.location? = some l) :
    ¬path.EndsIn l ∧ t.HasFile l := by
  cases stage with
  | idle => cases hl
  | moved => cases hl
  | holding temporary made l' bytes =>
    cases hl
    obtain ⟨-, hend, -, hfile⟩ := h
    exact ⟨hend, bytes, fileMode, hfile⟩

/-- What is moved is the temporary file, from where it was made to where the path leads. -/
theorem Stage.Holds.rename_eq_ok {temporary : Path} {made : Tree} {own : Location}
    (h : (Stage.holding temporary made own content).Holds working path t)
    (hmoved : t.rename working temporary path = .ok t') :
    ∃ k, t.Names working path k ∧ t' = (t.erase own).insert k (.file content fileMode) := by
  obtain ⟨hvacant, hend, hoverlays, hfile⟩ := h
  obtain ⟨source, k, entry, hsource, hk, hentry, -, -, rfl⟩ := Tree.rename_eq_ok hmoved
  -- The path of the temporary file leads to the file that was made, not to one of another save.
  obtain rfl := hoverlays.names_vacancy hvacant hsource
  rw [hfile] at hentry
  cases hentry
  have hne : k ≠ source := by
    rintro rfl
    exact hend hk.endsIn
  exact ⟨k, hk, if_neg hne⟩

theorem Stage.Holds.remove_eq_ok {temporary : Path} {made : Tree} {own : Location}
    {bytes : List UInt8} (h : (Stage.holding temporary made own bytes).Holds working path t)
    (hremoved : t.remove working temporary = .ok t') : t' = t.erase own := by
  obtain ⟨hvacant, -, hoverlays, -⟩ := h
  obtain ⟨source, hsource, -, rfl⟩ := Tree.remove_eq_ok hremoved
  rw [hoverlays.names_vacancy hvacant hsource]

/-- What a call of a save can do to the entry at a location. -/
inductive Change (working : Location) (path : Path) (content : List UInt8) (stage : Stage)
    (t : Tree) (moves : Bool) (t' : Tree) (l : Location) : Prop where
  | same (unchanged : t'.find? l = t.find? l)
  /-- A directory is made on the way to the target, where nothing stood. -/
  | made {p : Path} (way : p ∈ path.directory.ancestors) (vacant : t.vacancy working p = .ok l)
      (directory : t'.find? l = some .directory)
  /-- The temporary file of the save comes, grows or goes. -/
  | temporary (beside : ¬path.EndsIn l) (own : t.find? l = none ∨ stage.location? = some l)
  /-- The file of the save takes its place at the target. -/
  | placed (moving : moves = true) (target : t.Names working path l)
      (whole : t'.find? l = some (.file content fileMode))

/-- Each entry is left alone, or changed in one of three ways. -/
theorem Effect.change (h : Effect working path content stage t moves t' stage')
    (hholds : stage.Holds working path t) (l : Location) :
    Change working path content stage t moves t' l := by
  cases h with
  | nothing => exact .same rfl
  | directory way made =>
    obtain ⟨k, hk, rfl⟩ := makeDirectory_eq_ok_iff.mp made
    by_cases hlk : l = k
    · subst hlk
      exact .made way hk (find?_insert_self t _ (ne_nil_of_vacancy hk))
    · exact .same (find?_insert_of_ne t _ hlk)
  | @create _ name random k named vacant =>
    by_cases hlk : l = k
    · subst hlk
      exact .temporary (not_endsIn_of_vacancy named vacant) (.inl (find?_of_vacancy vacant))
    · exact .same (find?_insert_of_ne t _ hlk)
  | @append _ made temporary k bytes more =>
    obtain ⟨hvacant, hend, -, hfile⟩ := hholds
    by_cases hlk : l = k
    · subst hlk
      exact .temporary hend (.inr rfl)
    · exact .same ((sets_append more (ne_nil_of_vacancy hvacant) hfile).other l hlk)
  | @move _ _ made temporary own moved =>
    -- Two entries change: the file leaves its own place for the target.
    obtain ⟨k, hk, rfl⟩ := hholds.rename_eq_ok moved
    by_cases hlk : l = k
    · subst hlk
      exact .placed rfl hk (find?_insert_self _ _ hk.ne_nil)
    · by_cases hown : l = own
      · subst hown
        exact .temporary (hholds.hasFile rfl).1 (.inr rfl)
      · exact .same (by rw [find?_insert_of_ne _ _ hlk, find?_erase_of_ne t hown])
  | @remove _ _ made temporary own bytes removed =>
    rw [hholds.remove_eq_ok removed]
    by_cases hown : l = own
    · subst hown
      exact .temporary (hholds.hasFile rfl).1 (.inr rfl)
    · exact .same (find?_erase_of_ne t hown)

theorem Effect.overlays (h : Effect working path content stage t moves t' stage')
    (hholds : stage.Holds working path t) : Overlays path t t' where
  ways := by
    intro l e he hway
    cases h.change hholds l with
    | same unchanged => exact .inl (unchanged.trans he)
    | made way vacant directory =>
      rw [find?_of_vacancy vacant] at he
      cases he
    | temporary beside own =>
      -- A temporary file is no way to anything.
      rcases own with hnone | hown
      · rw [hnone] at he
        cases he
      · obtain ⟨-, bytes, mode, hfile⟩ := hholds.hasFile hown
        rw [hfile] at he
        cases he
        cases hway
    | placed moving target whole => exact .inr ⟨target.endsIn, content, fileMode, whole⟩
  files := by
    rintro l hl ⟨bytes, mode, hbytes⟩
    cases h.change hholds l with
    | same unchanged => exact ⟨bytes, mode, unchanged.trans hbytes⟩
    | made way vacant directory =>
      rw [find?_of_vacancy vacant] at hbytes
      cases hbytes
    | temporary beside own => exact absurd hl beside
    | placed moving target whole => exact ⟨content, fileMode, whole⟩

/-- A save has its own temporary file still after a call of its own. -/
theorem Effect.holds (h : Effect working path content stage t moves t' stage')
    (hholds : stage.Holds working path t) : stage'.Holds working path t' := by
  have hoverlays := h.overlays hholds
  cases h with
  | nothing => exact hholds
  | directory way made =>
    cases stage with
    | idle => trivial
    | moved => trivial
    | holding temporary before own bytes =>
      obtain ⟨hvacant, hend, hsince, hfile⟩ := hholds
      obtain ⟨k, hk, rfl⟩ := makeDirectory_eq_ok_iff.mp made
      have hne : own ≠ k := by
        rintro rfl
        rw [find?_of_vacancy hk] at hfile
        cases hfile
      exact ⟨hvacant, hend, hsince.trans hoverlays, (find?_insert_of_ne t _ hne).trans hfile⟩
  | create named vacant =>
    exact ⟨vacant, not_endsIn_of_vacancy named vacant, hoverlays,
      find?_insert_self t _ (ne_nil_of_vacancy vacant)⟩
  | append more =>
    obtain ⟨hvacant, hend, hsince, hfile⟩ := hholds
    exact ⟨hvacant, hend, hsince.trans hoverlays,
      (sets_append more (ne_nil_of_vacancy hvacant) hfile).self⟩
  | move moved => trivial
  | remove removed => trivial

/-- And it has it after a call of another save, if the two do not share it. -/
theorem Stage.Holds.of_effect {other : Stage} (hother : other.Holds working path t)
    (h : Effect working path content stage t moves t' stage')
    (hholds : stage.Holds working path t)
    (hapart : ∀ l, other.location? = some l → stage.location? ≠ some l) :
    other.Holds working path t' := by
  cases other with
  | idle => trivial
  | moved => trivial
  | holding temporary made own bytes =>
    obtain ⟨hvacant, hend, hsince, hfile⟩ := hother
    refine ⟨hvacant, hend, hsince.trans (h.overlays hholds), ?_⟩
    cases h.change hholds own with
    | same unchanged => exact unchanged.trans hfile
    | made way vacant directory =>
      rw [find?_of_vacancy vacant] at hfile
      cases hfile
    | temporary beside its =>
      rcases its with hnone | hits
      · rw [hnone] at hfile
        cases hfile
      · exact absurd hits (hapart own rfl)
    | placed moving target whole => exact absurd target.endsIn hend

/-- A temporary file that is new stands where nothing stood. -/
theorem Effect.location?_cases (h : Effect working path content stage t moves t' stage')
    (hl : stage'.location? = some l) : stage.location? = some l ∨ t.find? l = none := by
  cases h with
  | nothing => exact .inl hl
  | directory way made => exact .inl hl
  | create named vacant =>
    cases hl
    exact .inr (find?_of_vacancy vacant)
  | append more => exact .inl hl
  | move moved => cases hl
  | remove removed => cases hl

/-- A call that moves a file leaves it where the path leads. -/
theorem Effect.exists_names (h : Effect working path content stage t true t' stage')
    (hholds : stage.Holds working path t) :
    ∃ l, t.Names working path l ∧ t'.find? l = some (.file content fileMode) := by
  cases h with
  | move moved =>
    obtain ⟨k, hk, rfl⟩ := hholds.rename_eq_ok moved
    exact ⟨k, hk, find?_insert_self _ _ hk.ne_nil⟩

/-- Only such a call brings a save to its end. -/
theorem Effect.eq_moved (h : Effect working path content stage t false t' .moved) :
    stage = .moved := by
  cases h with
  | nothing => rfl
  | directory way made => rfl

/-- A call that moves no file leaves the one at the target alone. -/
theorem Effect.keeps_target (h : Effect working path content stage t false t' stage')
    (hholds : stage.Holds working path t) (hl : path.EndsIn l) {bytes : List UInt8} {mode : Nat}
    (hfile : t.find? l = some (.file bytes mode)) : t'.find? l = some (.file bytes mode) := by
  cases h.change hholds l with
  | same unchanged => exact unchanged.trans hfile
  | made way vacant directory =>
    rw [find?_of_vacancy vacant] at hfile
    cases hfile
  | temporary beside own => exact absurd hl beside
  | placed moving target whole => cases moving

end Effect

/-! ## One call among others -/

section

variable {ι : Type} [DecidableEq ι] {working : Location} {path : Path} {content : List UInt8}
  (stages : ι → Stage) {i : ι} {t t' : Tree} {moves : Bool} {stage' : Stage}
  (h : Effect working path content (stages i) t moves t' stage')
  (hholds : ∀ j, (stages j).Holds working path t)
  (hapart : ∀ j k l, (stages j).location? = some l → (stages k).location? = some l → j = k)

include h hholds hapart

/-- Everyone has what their stage counts on, before the call and after it. -/
theorem Effect.holds_update (j : ι) : (Function.update stages i stage' j).Holds working path t' := by
  by_cases hj : j = i
  · subst hj
    rw [Function.update_self]
    exact h.holds (hholds j)
  · rw [Function.update_of_ne hj]
    refine (hholds j).of_effect h (hholds i) ?_
    intro l hl hi
    exact hj (hapart j i l hl hi)

/-- And no temporary file is that of two saves. -/
theorem Effect.apart_update (j k : ι) (l : Location)
    (hj : (Function.update stages i stage' j).location? = some l)
    (hk : (Function.update stages i stage' k).location? = some l) : j = k := by
  -- Another save that holds the new file of this one would have had it before the call.
  have other {m : ι} (hm : m ≠ i) (hl : stage'.location? = some l)
      (hother : (Function.update stages i stage' m).location? = some l) : m = i := by
    rw [Function.update_of_ne hm] at hother
    rcases h.location?_cases hl with hsame | hnone
    · exact hapart m i l hother hsame
    · obtain ⟨-, bytes, mode, hfile⟩ := (hholds m).hasFile hother
      rw [hnone] at hfile
      cases hfile
  by_cases hji : j = i
  · subst hji
    rw [Function.update_self] at hj
    by_cases hkj : k = j
    · exact hkj.symm
    · exact (other hkj hj hk).symm
  · by_cases hki : k = i
    · subst hki
      rw [Function.update_self] at hk
      exact other hji hk hj
    · rw [Function.update_of_ne hji] at hj
      rw [Function.update_of_ne hki] at hk
      exact hapart j k l hj hk

end

/-! ## All saves together -/

section

variable {ι : Type} {working : Location} {path : Path} {content : ι → List UInt8}
  {start t t' : Tree} {stages : ι → Stage} {turns : List (Turn ι)} {i : ι} {stage' : Stage}
  {r : Request Location} {reply : r.Reply}

/-- The target of saves to a path: the entry that the path names at some moment. -/
def Targets (working : Location) (path : Path) (turns : List (Turn ι)) (now : Tree)
    (l : Location) : Prop :=
  ∃ t ∈ moments turns now, t.Names working path l

/-- What stands at a location is what stood there at the start, the whole content of one of the
saves, or a directory on the way to the path that was made where nothing stood, since there was no
such way at the start. -/
def Intact (working : Location) (path : Path) (content : ι → List UInt8) (start now : Tree)
    (l : Location) : Prop :=
  now.find? l = start.find? l ∨ (∃ i, now.find? l = some (.file (content i) fileMode)) ∨
    start.find? l = none ∧ now.find? l = some .directory ∧
      start.stat working path.directory ≠ .ok .directory

/-- What holds at every moment, with the stages at which the saves are. -/
structure Invariant (working : Location) (path : Path) (content : ι → List UInt8) (start : Tree)
    (stages : ι → Stage) (turns : List (Turn ι)) (now : Tree) : Prop where
  holds : ∀ i, (stages i).Holds working path now
  /-- No temporary file is that of two saves. -/
  apart : ∀ i j l, (stages i).location? = some l → (stages j).location? = some l → i = j
  first : start ∈ moments turns now
  overlays : ∀ earlier ∈ moments turns now, Overlays path earlier now
  unique : ∀ k l, Targets working path turns now k → Targets working path turns now l → k = l
  intact : ∀ l, path.EndsIn l → Intact working path content start now l
  last : ∀ i, lastMover turns = some i → ∃ l, Targets working path turns now l ∧
    now.find? l = some (.file (content i) fileMode)
  unmoved : lastMover turns = none → ∀ i, stages i ≠ .moved

theorem lastMover_cons (turn : Turn ι) (turns : List (Turn ι)) :
    lastMover (turn :: turns) =
      if turn.request.moved turn.reply then some turn.who else lastMover turns := by
  unfold lastMover
  rw [List.find?_cons]
  cases turn.request.moved turn.reply with
  | true => rfl
  | false => rfl

namespace Invariant

variable (h : Invariant working path content start stages turns t)
  (heffect : Effect working path (content i) (stages i) t (r.moved reply) t' stage')

theorem init : Invariant working path content start (fun _ : ι => .idle) [] start where
  holds := fun _ => trivial
  apart := by
    intro i j l hi
    cases hi
  first := List.mem_cons_self
  overlays := by
    intro earlier hearlier
    rw [List.mem_singleton.mp hearlier]
    exact .refl path start
  unique := by
    rintro k l ⟨a, ha, hk⟩ ⟨b, hb, hl⟩
    rw [List.mem_singleton.mp ha] at hk
    rw [List.mem_singleton.mp hb] at hl
    exact hk.unique hl
  intact := fun _ _ => .inl rfl
  last := by
    intro i hi
    cases hi
  unmoved := by
    intro _ i hi
    cases hi

include h heffect

theorem overlays_step {earlier : Tree}
    (hearlier : earlier ∈ moments (⟨t, i, r, reply⟩ :: turns) t') : Overlays path earlier t' := by
  rcases List.mem_cons.mp hearlier with rfl | hearlier
  · exact .refl path earlier
  · exact (h.overlays earlier hearlier).trans (heffect.overlays (h.holds i))

/-- The path names what it named at every earlier moment. -/
theorem unique_step {k l : Location}
    (hk : Targets working path (⟨t, i, r, reply⟩ :: turns) t' k)
    (hl : Targets working path (⟨t, i, r, reply⟩ :: turns) t' l) : k = l := by
  obtain ⟨a, ha, hka⟩ := hk
  obtain ⟨b, hb, hlb⟩ := hl
  have hta := h.overlays_step heffect ha
  have htb := h.overlays_step heffect hb
  -- A name at the moment after the call is compared with an earlier one, two earlier ones are not.
  rcases List.mem_cons.mp ha with rfl | ha
  · exact htb.names_unique hlb hka
  · rcases List.mem_cons.mp hb with rfl | hb
    · exact (hta.names_unique hka hlb).symm
    · exact h.unique k l ⟨a, ha, hka⟩ ⟨b, hb, hlb⟩

theorem intact_step {l : Location} (hl : path.EndsIn l) :
    Intact working path content start t' l := by
  have hbefore := h.intact l hl
  cases heffect.change (h.holds i) l with
  | same unchanged =>
    unfold Intact
    rw [unchanged]
    exact hbefore
  | made way vacant directory =>
    have hnone := find?_of_vacancy vacant
    -- Nothing stands there now, so that nothing did at the start: no file of a save is gone.
    have hstart : start.find? l = none := by
      rcases hbefore with hsame | ⟨j, hfile⟩ | ⟨hstart, -, -⟩
      · rw [← hsame, hnone]
      · rw [hnone] at hfile
        cases hfile
      · exact hstart
    refine .inr (.inr ⟨hstart, directory, fun hstat => ?_⟩)
    -- Had the directory of the path been there, its way would not have needed this one.
    have hyields := (h.overlays start h.first).yields
    exact vacancy_ancestor_ne_ok hyields hstat way vacant
  | temporary beside own => exact absurd hl beside
  | placed moving target whole => exact .inr (.inl ⟨i, whole⟩)

/-- A file at the target is replaced only by a save that moves its own there. -/
theorem last_step {j : ι} (hj : lastMover (⟨t, i, r, reply⟩ :: turns) = some j) :
    ∃ l, Targets working path (⟨t, i, r, reply⟩ :: turns) t' l ∧
      t'.find? l = some (.file (content j) fileMode) := by
  have later {l : Location} (hl : Targets working path turns t l) :
      Targets working path (⟨t, i, r, reply⟩ :: turns) t' l := by
    obtain ⟨a, ha, hl⟩ := hl
    exact ⟨a, List.mem_cons_of_mem _ ha, hl⟩
  rw [lastMover_cons] at hj
  cases hmoved : r.moved reply with
  | true =>
    rw [if_pos hmoved] at hj
    cases hj
    rw [hmoved] at heffect
    obtain ⟨l, hl, hfile⟩ := heffect.exists_names (h.holds i)
    exact ⟨l, later ⟨t, List.mem_cons_self, hl⟩, hfile⟩
  | false =>
    rw [if_neg (by rw [hmoved]; decide)] at hj
    obtain ⟨l, hl, hfile⟩ := h.last j hj
    have hend : path.EndsIn l := by
      obtain ⟨a, -, hnames⟩ := hl
      exact hnames.endsIn
    rw [hmoved] at heffect
    exact ⟨l, later hl, heffect.keeps_target (h.holds i) hend hfile⟩

variable [DecidableEq ι]

theorem holds_step (j : ι) : (Function.update stages i stage' j).Holds working path t' :=
  heffect.holds_update stages h.holds h.apart j

/-- A new temporary file stands where there was none of another save. -/
theorem apart_step {j k : ι} {l : Location}
    (hj : (Function.update stages i stage' j).location? = some l)
    (hk : (Function.update stages i stage' k).location? = some l) : j = k :=
  heffect.apart_update stages h.holds h.apart j k l hj hk

theorem unmoved_step (hnone : lastMover (⟨t, i, r, reply⟩ :: turns) = none) (j : ι) :
    Function.update stages i stage' j ≠ .moved := by
  rw [lastMover_cons] at hnone
  cases hmoved : r.moved reply with
  | true =>
    rw [if_pos hmoved] at hnone
    cases hnone
  | false =>
    rw [if_neg (by rw [hmoved]; decide)] at hnone
    rw [hmoved] at heffect
    by_cases hj : j = i
    · subst hj
      rw [Function.update_self]
      rintro rfl
      exact h.unmoved hnone j heffect.eq_moved
    · rw [Function.update_of_ne hj]
      exact h.unmoved hnone j

/-- Every call that a save may make preserves the invariant. -/
theorem step : Invariant working path content start (Function.update stages i stage')
    (⟨t, i, r, reply⟩ :: turns) t' where
  holds := h.holds_step heffect
  apart := fun _ _ _ hj hk => h.apart_step heffect hj hk
  first := List.mem_cons_of_mem _ h.first
  overlays := fun _ hearlier => h.overlays_step heffect hearlier
  unique := fun _ _ hk hl => h.unique_step heffect hk hl
  intact := fun _ hl => h.intact_step heffect hl
  last := fun _ hj => h.last_step heffect hj
  unmoved := fun hnone j => h.unmoved_step heffect hnone j

end Invariant

/-- The saves of some contents to a path, none of which has had a turn. -/
def saves (path : Path) (content : ι → List UInt8) (start : Tree) :
    Shared ι (Except Error Unit) where
  tree := start
  rest i := (save ⟨path⟩ (content i)).run

theorem saves_rest (path : Path) (content : ι → List UInt8) (start : Tree) (i : ι) :
    (saves path content start).rest i = (save ⟨path⟩ (content i)).run := rfl

/-- Saves to one path are atomic, in whichever order they take turns and wherever they stop.  The
target is one entry.  It holds what it held at the start or the whole content of one of the saves; if
the directory of the path was missing at the start it can also be a directory that was made on the
way to it, where nothing stood.  Once a save has ended well the target holds the content of the one
that was the last to move its file. -/
theorem saves_atomic [DecidableEq ι] {s : Shared ι (Except Error Unit)}
    (h : Shared.Reaches working (saves path content start) turns s) :
    (∀ k l, Targets working path turns s.tree k → Targets working path turns s.tree l → k = l) ∧
      (∀ l, Targets working path turns s.tree l →
        Intact working path content start s.tree l) ∧
      ∀ i, s.rest i = .done (.ok ()) →
        ∃ j l, lastMover turns = some j ∧ Targets working path turns s.tree l ∧
          s.tree.find? l = some (.file (content j) fileMode) := by
  have hsave (i : ι) : ((saves path content start).rest i).Follows working
      (protocol working path (content i)) (fun stage result => ∀ u, result = .ok u → stage = .moved)
      .idle := by
    have hsave : Task.Follows working (protocol working path (content i))
        (fun stage _ => stage = .moved) (save ⟨path⟩ (content i)) .idle :=
      save_follows
    rw [saves_rest]
    exact hsave.program
  obtain ⟨stages, hinvariant, hfollows⟩ :=
    h.exists_stages (Invariant working path content start) .init hsave
      (fun _ _ _ i hinvariant => hinvariant.holds i)
      (fun _ _ _ _ _ _ _ _ hinvariant hallows => hinvariant.step hallows)
  refine ⟨hinvariant.unique, ?_, ?_⟩
  · rintro l ⟨a, ha, hl⟩
    exact hinvariant.intact l hl.endsIn
  · intro i hdone
    have hmoved := hfollows i
    rw [hdone] at hmoved
    have hstage : stages i = .moved := hmoved () rfl
    cases hlast : lastMover turns with
    | none => exact absurd hstage (hinvariant.unmoved hlast i)
    | some j =>
      obtain ⟨l, hl, hfile⟩ := hinvariant.last j hlast
      exact ⟨j, l, rfl, hl, hfile⟩

end

/-- A world with nothing but a tree, in which every random byte is zero. -/
def plainWorld (tree : Tree) : World where
  tree := tree
  working := []
  input := []
  random := fun _ => 0
  events := []

/-- A world with nothing but a tree, in which the random bytes are 0, 1, 2 and so on. -/
def countingWorld (tree : Tree) : World :=
  { plainWorld tree with random := .ofNat }

/-- Two saves to a path in an empty directory. -/
def twoSaves : Shared Bool (Except Error Unit) :=
  saves ⟨"out"⟩ (fun first => [if first then 1 else 2]) ⟨[]⟩

/-- The turns in which both write their temporary files, one call of the one and one of the other. -/
def writingTurns : List Bool := [true, false, true, false, true, false, true, false, true, false]

/-- The turns that are left then, in which both move their files and come to their ends. -/
def endingTurns : List Bool := [true, false, true, false, true, false, true, false]

def twoWritten : World × (Bool → Program Location (Except Error Unit)) :=
  Shared.takeTurns (countingWorld ⟨[]⟩) twoSaves.rest writingTurns

def twoSaved : World × (Bool → Program Location (Except Error Unit)) :=
  Shared.takeTurns twoWritten.1 twoWritten.2 endingTurns

/-- Both saves have their temporary files before either moves its own, and both end well. -/
theorem saves_atomic_twoSaves :
    ∃ turns middle more s, Shared.Reaches [] twoSaves turns middle ∧
      middle.tree.find? ["out.tmp.0001020304050607"] = some (.file [1] fileMode) ∧
      middle.tree.find? ["out.tmp.08090a0b0c0d0e0f"] = some (.file [2] fileMode) ∧
      Shared.Reaches [] twoSaves (more ++ turns) s ∧
      s.rest true = .done (.ok ()) ∧ s.rest false = .done (.ok ()) ∧
      ∃ j l, lastMover (more ++ turns) = some j ∧ Targets [] ⟨"out"⟩ (more ++ turns) s.tree l ∧
        s.tree.find? l = some (.file [if j then 1 else 2] fileMode) := by
  have hstart : Shared.Reaches [] twoSaves [] ⟨(countingWorld ⟨[]⟩).tree, twoSaves.rest⟩ := .start
  obtain ⟨turns, hwritten⟩ := hstart.takeTurns (w := countingWorld ⟨[]⟩) writingTurns rfl
  rw [← twoWritten, List.append_nil] at hwritten
  obtain ⟨more, hsaved⟩ := hwritten.takeTurns endingTurns (Shared.working_takeTurns ..)
  rw [← twoSaved] at hsaved
  have hfile : twoWritten.1.tree.find? ["out.tmp.0001020304050607"] =
      some (.file [1] fileMode) := by
    decide +kernel
  have hother : twoWritten.1.tree.find? ["out.tmp.08090a0b0c0d0e0f"] =
      some (.file [2] fileMode) := by
    decide +kernel
  obtain ⟨_, hfirst⟩ : ∃ u, twoSaved.2 true = .done (.ok u) :=
    Program.exists_of_isDoneWell (by decide +kernel)
  obtain ⟨_, hsecond⟩ : ∃ u, twoSaved.2 false = .done (.ok u) :=
    Program.exists_of_isDoneWell (by decide +kernel)
  -- What follows does not look into the runs any more.
  generalize twoWritten = written at hwritten hfile hother
  generalize twoSaved = saved at hsaved hfirst hsecond
  exact ⟨turns, _, more, _, hwritten, hfile, hother, hsaved, hfirst, hsecond,
    (saves_atomic hsaved).2.2 true hfirst⟩

/-- A save to a path whose directory is missing and is the target itself. -/
def saveThrough : Shared Unit (Except Error Unit) :=
  saves ⟨"x/../x"⟩ (fun _ => [1]) ⟨[]⟩

/-- The directory that is made on the way stands at the target then, where nothing stood. -/
theorem save_makes_target :
    ∃ turns s, Shared.Reaches [] saveThrough turns s ∧
      Targets [] ⟨"x/../x"⟩ turns s.tree ["x"] ∧ saveThrough.tree.find? ["x"] = none ∧
        s.tree.find? ["x"] = some .directory := by
  have hstart : Shared.Reaches (plainWorld ⟨[]⟩).working saveThrough [] saveThrough := .start
  obtain ⟨turns, h⟩ := hstart.run rfl (rfl : saveThrough.rest () = saveThrough.rest ())
  have hplace : (((saveThrough.rest ()).run (plainWorld ⟨[]⟩)).2.tree.place []
      ⟨"x/../x"⟩).toOption = some ⟨[], .name "x", false⟩ := by
    decide +kernel
  have hdirectory : ((saveThrough.rest ()).run (plainWorld ⟨[]⟩)).2.tree.find? ["x"] =
      some .directory := by
    decide +kernel
  generalize ((saveThrough.rest ()).run (plainWorld ⟨[]⟩)).2.tree = t at h hplace hdirectory
  have hnone : saveThrough.tree.find? ["x"] = none := by decide +kernel
  have hnames : t.Names [] ⟨"x/../x"⟩ ["x"] := by
    cases hresult : t.place [] ⟨"x/../x"⟩ with
    | error e =>
      rw [hresult] at hplace
      cases hplace
    | ok place =>
      rw [hresult] at hplace
      cases hplace
      exact ⟨_, hresult, rfl, rfl⟩
  exact ⟨turns, _, h, ⟨t, List.mem_cons_self, hnames⟩, hnone, hdirectory⟩

end Sealing.Storage
