import Sealing.Proofs.Storage.Atomic
/-!
# Once a file has come to the target

A save that has made its temporary file has found the directory of its path.  From then on no save
makes a directory on the way there (`Effect.keepsWays`), so that every way that is there later was
there before.  Hence a path that names the target once more, after a file was moved there, has led to
that file in the meantime (`Taken.stat_of_names`).
-/

namespace Sealing.Storage

open FileSystem Tree

variable {working : Location} {path : Path} {content : List UInt8} {stage stage' : Stage}
  {t t' now : Tree} {moves : Bool} {l : Location}

/-- The directory of the path has been there. -/
def Ready (working : Location) (path : Path) (t : Tree) : Prop :=
  ∃ earlier, Overlays path earlier t ∧ earlier.stat working path.directory = .ok .directory

theorem Ready.of_overlays (h : Ready working path t) (hsince : Overlays path t t') :
    Ready working path t' := by
  obtain ⟨earlier, hoverlays, hstat⟩ := h
  exact ⟨earlier, hoverlays.trans hsince, hstat⟩

/-- Where a temporary file can be made, the directory of the path is. -/
theorem ready_of_vacancy {name : String} {random : FixedBytes 8} (hname : path.fileName? = some name)
    (h : t.vacancy working (temporaryPath path name random) = .ok l) : Ready working path t :=
  ⟨t, .refl path t, stat_of_vacancy_join path.text_directory_ne (temporary_ne_empty name random)
    (slash_not_mem_temporary hname random) h⟩

/-- Who has a temporary file had one before the call, or has just made it. -/
theorem Effect.ready_or (h : Effect working path content stage t moves t' stage')
    (hl : stage'.location? = some l) : stage.location? = some l ∨ Ready working path t := by
  cases h with
  | nothing => exact .inl hl
  | directory way made => exact .inl hl
  | create named vacant => exact .inr (ready_of_vacancy named vacant)
  | append more => exact .inl hl
  | move moved => cases hl
  | remove removed => cases hl

/-- What is moved is a temporary file. -/
theorem Effect.exists_location (h : Effect working path content stage t true t' stage') :
    ∃ l, stage.location? = some l := by
  cases h with
  | move moved => exact ⟨_, rfl⟩

theorem keepsWays_of_erase (t : Tree) (hl : l ≠ []) : KeepsWays (t.erase l) t := by
  intro k e hk _
  by_cases hkl : k = l
  · rw [hkl, find?_erase_self t hl] at hk
    cases hk
  · rwa [find?_erase_of_ne t hkl] at hk

/-- Once the directory of the path has been there, a save makes no way that was not there. -/
theorem Effect.keepsWays (h : Effect working path content stage t moves t' stage')
    (hholds : stage.Holds working path t) (hready : Ready working path t) : KeepsWays t' t := by
  cases h with
  | nothing => exact .refl _ t
  | directory way made =>
    obtain ⟨earlier, hoverlays, hstat⟩ := hready
    obtain ⟨k, hk, -⟩ := makeDirectory_eq_ok_iff.mp made
    exact absurd hk (vacancy_ancestor_ne_ok hoverlays.yields hstat way)
  | create named vacant =>
    exact (Sets.insert t (ne_nil_of_vacancy vacant) _).keeps_back nofun
  | append more =>
    obtain ⟨hvacant, -, -, hfile⟩ := hholds
    exact (sets_append more (ne_nil_of_vacancy hvacant) hfile).keeps_back nofun
  | @move _ _ made temporary own moved =>
    obtain ⟨k, hk, rfl⟩ := hholds.rename_eq_ok moved
    have hput : KeepsWays ((t.erase own).insert k (.file content fileMode)) (t.erase own) :=
      (Sets.insert _ hk.ne_nil _).keeps_back nofun
    exact hput.trans (keepsWays_of_erase t (ne_nil_of_vacancy hholds.1))
  | remove removed =>
    rw [hholds.remove_eq_ok removed]
    exact keepsWays_of_erase t (ne_nil_of_vacancy hholds.1)

/-- A file has come to the target, and there is one still. -/
structure Taken (working : Location) (path : Path) (t : Tree) : Prop where
  ready : Ready working path t
  file : ∃ earlier l, Overlays path earlier t ∧ earlier.Names working path l ∧ t.HasFile l

theorem Taken.of_overlays (h : Taken working path t) (hsince : Overlays path t t') :
    Taken working path t' := by
  refine ⟨h.ready.of_overlays hsince, ?_⟩
  obtain ⟨earlier, l, hoverlays, hl, hfile⟩ := h.file
  exact ⟨earlier, l, hoverlays.trans hsince, hl, hsince.files l hl.endsIn hfile⟩

/-- A save that moves its file takes the target. -/
theorem Effect.taken (h : Effect working path content stage t true t' stage')
    (hholds : stage.Holds working path t) (hready : Ready working path t) :
    Taken working path t' := by
  have hoverlays := h.overlays hholds
  obtain ⟨l, hl, hfile⟩ := h.exists_names hholds
  exact ⟨hready.of_overlays hoverlays, t, l, hoverlays, hl, content, fileMode, hfile⟩

/-- Where the path names the target later, over ways that were there already, it led to the file. -/
theorem Taken.stat_of_names (h : Taken working path t) (hways : KeepsWays now t)
    (hl : now.Names working path l) : t.stat working path = .ok .file := by
  obtain ⟨earlier, k, hoverlays, hk, content, mode, hfile⟩ := h.file
  have hnames : t.Names working path l := hl.of_keepsWays hways
  obtain rfl := hoverlays.names_unique hk hnames
  exact Tree.stat_of_names hnames hfile

end Sealing.Storage
