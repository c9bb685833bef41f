import Sealing.FileSystem.Calls
import Sealing.Proofs.FileSystem.Resolve
/-!
# What the calls do to a tree

Each call on files is taken apart once: where it is not refused, which places its paths named, what
stood there, and what the tree is afterwards.
-/

namespace Sealing.FileSystem

/-- A place names a location exactly if its target is a name that is not too long. -/
theorem Place.location_eq_ok_iff {place : Place} {otherwise : Refusal} {l : Location} :
    place.location otherwise = .ok l ↔
      ∃ n, place.target = .name n ∧ n.utf8ByteSize ≤ nameMax ∧ l = n :: place.directory := by
  unfold Place.location
  cases htarget : place.target with
  | name n =>
    by_cases hlong : nameMax < n.utf8ByteSize
    · simp [hlong, Nat.not_le_of_lt hlong]
    · simp [hlong, Nat.le_of_not_lt hlong, eq_comm]
  | current => simp
  | parent => simp
  | root => simp

theorem Target.ofName_eq_name_iff {s n : String} :
    Target.ofName s = .name n ↔ s ≠ "." ∧ s ≠ ".." ∧ s = n := by
  unfold Target.ofName
  by_cases hdot : s = "."
  · simp [hdot]
  · by_cases hdots : s = ".."
    · simp [hdots]
    · simp [hdot, hdots]

/-- Which location a place names does not depend on the refusal for the other places. -/
theorem Place.location_of_location {place : Place} {refusal : Refusal} {l : Location}
    (h : place.location refusal = .ok l) (otherwise : Refusal) :
    place.location otherwise = .ok l := by
  rw [location_eq_ok_iff] at h ⊢
  exact h

theorem Place.location_ne_nil {place : Place} {refusal : Refusal} {l : Location}
    (h : place.location refusal = .ok l) : l ≠ [] := by
  obtain ⟨n, -, -, rfl⟩ := location_eq_ok_iff.mp h
  exact List.cons_ne_nil n _

namespace Tree

variable {t t' : Tree} {working : Location} {p source target : Path}

/-! ## New entries -/

/-- A new entry stands where a place was found and nothing stood. -/
theorem vacancy_eq_ok_iff {l : Location} :
    t.vacancy working p = .ok l ↔
      ∃ place, t.place working p = .ok place ∧ place.location .alreadyExists = .ok l ∧
        t.find? l = none := by
  unfold vacancy
  rw [Except.bind_eq_ok_iff]
  apply exists_congr
  intro place
  apply and_congr_right
  intro _
  rw [Except.bind_eq_ok_iff]
  constructor
  · rintro ⟨l', hl', h⟩
    cases hfind : t.find? l' with
    | none =>
      rw [hfind] at h
      cases h
      exact ⟨hl', hfind⟩
    | some e =>
      rw [hfind] at h
      cases h
  · rintro ⟨hl, hnone⟩
    refine ⟨l, hl, ?_⟩
    rw [hnone]
    rfl

theorem makeDirectory_eq_ok_iff :
    t.makeDirectory working p = .ok t' ↔
      ∃ l, t.vacancy working p = .ok l ∧ t' = t.insert l .directory := by
  unfold makeDirectory
  rw [Except.bind_eq_ok_iff]
  apply exists_congr
  intro l
  apply and_congr_right
  intro _
  constructor
  · intro h
    cases h
    rfl
  · intro h
    rw [h]
    rfl

theorem createNew_eq_ok_iff {mode : Nat} {l : Location} :
    t.createNew working p mode = .ok (l, t') ↔
      t.vacancy working p = .ok l ∧ t' = t.insert l (.file [] mode) := by
  unfold createNew
  rw [Except.bind_eq_ok_iff]
  constructor
  · rintro ⟨l', hl', h⟩
    cases h
    exact ⟨hl', rfl⟩
  · rintro ⟨hl, rfl⟩
    exact ⟨l, hl, rfl⟩

theorem find?_of_vacancy {l : Location} (h : t.vacancy working p = .ok l) : t.find? l = none := by
  obtain ⟨place, -, -, hnone⟩ := vacancy_eq_ok_iff.mp h
  exact hnone

theorem ne_nil_of_vacancy {l : Location} (h : t.vacancy working p = .ok l) : l ≠ [] := by
  obtain ⟨place, -, hl, -⟩ := vacancy_eq_ok_iff.mp h
  exact Place.location_ne_nil hl

theorem keepsAll_of_makeDirectory (h : t.makeDirectory working p = .ok t') : KeepsAll t t' := by
  obtain ⟨l, hl, rfl⟩ := makeDirectory_eq_ok_iff.mp h
  exact (Sets.insert t (ne_nil_of_vacancy hl) .directory).keepsAll (find?_of_vacancy hl)

/-! ## Entries moved and removed -/

/-- A path names the entry at a location: the path has a place, no slash follows its last name, and
that name is the one of the entry. -/
def Names (t : Tree) (working : Location) (p : Path) (l : Location) : Prop :=
  ∃ place, t.place working p = .ok place ∧ place.slash = false ∧ place.location .busy = .ok l

/-- A path names one location. -/
theorem Names.unique {k l : Location} (hk : t.Names working p k) (hl : t.Names working p l) :
    k = l := by
  obtain ⟨place, hplace, -, hk⟩ := hk
  obtain ⟨place', hplace', -, hl⟩ := hl
  rw [hplace] at hplace'
  cases hplace'
  rw [hk] at hl
  cases hl
  rfl

theorem Names.ne_nil {l : Location} (h : t.Names working p l) : l ≠ [] := by
  obtain ⟨place, -, -, hl⟩ := h
  exact Place.location_ne_nil hl

theorem Names.of_keepsWays (hkeep : KeepsWays t t') {l : Location} (h : t.Names working p l) :
    t'.Names working p l := by
  obtain ⟨place, hplace, hrest⟩ := h
  exact ⟨place, place_of_keepsWays hkeep hplace, hrest⟩

/-- A call that moves an entry found both of its paths to name locations, and put the entry of the
one in place of a file, a link or nothing at the other. -/
theorem rename_eq_ok (h : t.rename working source target = .ok t') :
    ∃ l k entry, t.Names working source l ∧ t.Names working target k ∧ t.find? l = some entry ∧
      entry ≠ .directory ∧ t.find? k ≠ some .directory ∧
      t' = if k = l then t else (t.erase l).insert k entry := by
  unfold rename at h
  -- The checks of the call, in its order; each but the last can only refuse.
  obtain ⟨sourcePlace, hsource, h⟩ := Except.bind_eq_ok_iff.mp h
  obtain ⟨targetPlace, htarget, h⟩ := Except.bind_eq_ok_iff.mp h
  by_cases hnames : sourcePlace.target.isName = false ∨ targetPlace.target.isName = false
  · rw [if_pos hnames] at h
    cases h
  rw [if_neg hnames] at h
  obtain ⟨l, hl, h⟩ := Except.bind_eq_ok_iff.mp h
  split at h
  · cases h
  · cases h
  · rename_i entry hnodir hentry
    obtain ⟨k, hk, h⟩ := Except.bind_eq_ok_iff.mp h
    by_cases hslash : sourcePlace.slash = true ∨ targetPlace.slash = true
    · rw [if_pos hslash] at h
      cases h
    rw [if_neg hslash] at h
    by_cases hdir : t.find? k = some .directory
    · rw [if_pos hdir] at h
      cases h
    rw [if_neg hdir] at h
    rw [not_or, Bool.not_eq_true, Bool.not_eq_true] at hslash
    have hresult : t' = if k = l then t else (t.erase l).insert k entry := by
      split at h
      · rename_i hkl
        cases h
        rw [if_pos hkl]
      · rename_i hkl
        cases h
        rw [if_neg hkl]
    exact ⟨l, k, entry, ⟨sourcePlace, hsource, hslash.1, hl⟩, ⟨targetPlace, htarget, hslash.2, hk⟩,
      hentry, hnodir, hdir, hresult⟩

/-- A call that removes an entry found its path to name a file or a link. -/
theorem remove_eq_ok (h : t.remove working p = .ok t') :
    ∃ l, t.Names working p l ∧ t.find? l ≠ some .directory ∧ t' = t.erase l := by
  unfold remove at h
  obtain ⟨place, hplace, h⟩ := Except.bind_eq_ok_iff.mp h
  obtain ⟨l, hl, h⟩ := Except.bind_eq_ok_iff.mp h
  split at h
  · cases h
  · cases h
  · rename_i entry hnodir hentry
    by_cases hslash : place.slash = true
    · rw [if_pos hslash] at h
      cases h
    rw [if_neg hslash] at h
    cases h
    have hdir : t.find? l ≠ some .directory := by
      rw [hentry]
      intro hd
      cases hd
      exact hnodir rfl
    exact ⟨l, ⟨place, hplace, Bool.not_eq_true _ ▸ hslash, Place.location_of_location hl .busy⟩,
      hdir, rfl⟩

/-! ## A file written beside its target and moved over it -/

/-- Bytes written to a new file come after those that it has. -/
theorem sets_append {l : Location} {content : List UInt8} {mode : Nat} (bytes : List UInt8)
    (hl : l ≠ []) (h : t.find? l = some (.file content mode)) :
    Sets t l (.file (content ++ bytes) mode) (t.append l bytes) := by
  have hinsert : t.append l bytes = t.insert l (.file (content ++ bytes) mode) := by
    unfold append
    rw [h]
  rw [hinsert]
  exact Sets.insert t hl _

variable {e : Entry} {l : Location}

/-- A path at which a file was made still names that file. -/
theorem names_vacancy {k : Location} (hl : t.vacancy working p = .ok l) (hset : Sets t l e t')
    (hk : t'.Names working p k) : k = l := by
  obtain ⟨place, hplace, hlocation, hnone⟩ := vacancy_eq_ok_iff.mp hl
  obtain ⟨place', hplace', -, hk⟩ := hk
  have hkeep : KeepsWays t t' := (hset.keepsAll hnone).keepsWays
  rw [place_of_keepsWays hkeep hplace] at hplace'
  cases hplace'
  rw [Place.location_of_location hlocation .busy] at hk
  cases hk
  rfl

/-- A new file moved over a path: the tree is the one before the file was made, with the file where
the path leads. -/
theorem sets_of_rename {t'' : Tree} (hl : t.vacancy working source = .ok l)
    (hset : Sets t l e t') (hfile : e.isFile = true)
    (h : t'.rename working source target = .ok t'') :
    ∃ k, t.Names working target k ∧ t.find? k ≠ some .directory ∧ Sets t k e t'' := by
  have hnone := find?_of_vacancy hl
  obtain ⟨l', k, entry, hsource, htarget, hentry, -, hdir, rfl⟩ := rename_eq_ok h
  obtain rfl := names_vacancy hl hset hsource
  rw [hset.self] at hentry
  cases hentry
  -- The new file is no way to anything, so the target had its place before it was made.
  have hback : KeepsWays t' t := hset.keeps_back (by rw [hfile]; decide)
  refine ⟨k, htarget.of_keepsWays hback, ?_, ?_⟩
  · intro hd
    exact hdir ((hset.keepsAll hnone) k _ hd trivial)
  · by_cases hkl : k = l'
    · -- Moved to where it stands: nothing happens.
      rw [if_pos hkl, hkl]
      exact hset
    · rw [if_neg hkl]
      refine ⟨find?_insert_self _ e htarget.ne_nil, fun m hm => ?_⟩
      rw [find?_insert_of_ne _ e hm]
      by_cases hml : m = l'
      · -- Where it was made there was nothing before, and there is nothing again.
        rw [hml, find?_erase_self t' hsource.ne_nil, hnone]
      · rw [find?_erase_of_ne t' hml, hset.other m hml]

/-- A new file can be removed again, unless a slash ends its path. -/
theorem remove_of_vacancy (hl : t.vacancy working p = .ok l)
    (hslash : ∀ place, t.place working p = .ok place → place.slash = false) (hset : Sets t l e t')
    (hfile : e.isFile = true) : t'.remove working p = .ok (t'.erase l) := by
  obtain ⟨place, hplace, hlocation, hnone⟩ := vacancy_eq_ok_iff.mp hl
  have hafter := place_of_keepsWays (hset.keepsAll hnone).keepsWays hplace
  unfold remove
  rw [hafter, Except.ok_bind, Place.location_of_location hlocation .isDirectory, Except.ok_bind,
    hset.self]
  cases e with
  | directory => cases hfile
  | link target => cases hfile
  | file content mode =>
    simp only [hslash place hplace]
    rfl

/-! ## What stands there already -/

/-- A path that names an entry leads to a directory, and from there in one more step, by the name of
the entry. -/
theorem Names.exists_route (h : t.Names working p l) :
    ∃ route front last d, Route.ofPath p = .ok route ∧ route.steps = front ++ [last] ∧
      t.locate linkMax (route.base working) front = .ok d ∧ t.find? d = some .directory ∧
      (last ≠ "." ∧ last ≠ ".." ∧ last.utf8ByteSize ≤ nameMax) ∧ l = last :: d := by
  obtain ⟨place, hplace, hslash, hl⟩ := h
  obtain ⟨route, hroute, ⟨-, rfl⟩ | ⟨front, last, d, hnames, hd, hdir, rfl⟩⟩ :=
    place_eq_ok_iff.mp hplace
  · cases hl
  obtain ⟨n, htarget, hlength, rfl⟩ := Place.location_eq_ok_iff.mp hl
  obtain ⟨hdot, hdots, rfl⟩ := Target.ofName_eq_name_iff.mp htarget
  have hsteps : route.steps = front ++ [last] := by
    unfold Route.steps
    rw [hnames, if_neg (by rw [show route.slash = false from hslash]; decide)]
  exact ⟨route, front, last, d, hroute, hsteps, hd, hdir, ⟨hdot, hdots, hlength⟩, rfl⟩

/-- The last step of a path to a file meets no link, so that it takes none of those that are left. -/
theorem locate_of_file {links : Nat} {d : Location} {last : String} {content : List UInt8}
    {mode : Nat} (hdir : t.find? d = some .directory)
    (hlast : last ≠ "." ∧ last ≠ ".." ∧ last.utf8ByteSize ≤ nameMax)
    (hfile : t.find? (last :: d) = some (.file content mode)) :
    t.locate links d [last] = .ok (last :: d) := by
  obtain ⟨hdot, hdots, hlength⟩ := hlast
  rw [locate_of_entry hdir hdot hdots (Nat.not_lt_of_le hlength) hfile nofun, locate]

/-- A path that names a file leads to it. -/
theorem resolve_of_names {content : List UInt8} {mode : Nat} (hl : t.Names working p l)
    (hfile : t.find? l = some (.file content mode)) : t.resolve working p = .ok l := by
  obtain ⟨route, front, last, d, hroute, hsteps, hd, hdir, hlast, rfl⟩ := hl.exists_route
  refine resolve_eq_ok_iff.mpr ⟨route, hroute, ?_⟩
  obtain ⟨left, hgo⟩ := locate_append_of_ok hd
  rw [hsteps, hgo, locate_of_file hdir hlast hfile]

theorem stat_of_names {content : List UInt8} {mode : Nat} (hl : t.Names working p l)
    (hfile : t.find? l = some (.file content mode)) : t.stat working p = .ok .file := by
  unfold stat
  rw [resolve_of_names hl hfile]
  simp only [Except.ok_bind, hfile]
  rfl

theorem read_of_names {content : List UInt8} {mode : Nat} (hl : t.Names working p l)
    (hfile : t.find? l = some (.file content mode)) : t.read working p = .ok content := by
  unfold read
  rw [resolve_of_names hl hfile]
  simp only [Except.ok_bind, hfile]
  rfl

/-- A path that named an entry still names it, if it leads anywhere, after files took the place of
other entries. -/
theorem names_of_resolve {l' : Location} (hl : t.Names working p l) (hyield : Yields t t')
    (hresolve : t'.resolve working p = .ok l') : t'.Names working p l := by
  obtain ⟨place, hplace, hslash, hlocation⟩ := hl
  obtain ⟨route, hroute, ⟨-, rfl⟩ | ⟨front, last, d, hnames, hd, hdir, rfl⟩⟩ :=
    place_eq_ok_iff.mp hplace
  · cases hlocation
  have hsteps : route.steps = front ++ [last] := by
    unfold Route.steps
    rw [hnames, if_neg (by rw [show route.slash = false from hslash]; decide)]
  obtain ⟨route', hroute', hwalk⟩ := resolve_eq_ok_iff.mp hresolve
  rw [hroute, Except.ok.injEq] at hroute'
  rw [← hroute', hsteps] at hwalk
  obtain ⟨left, outer, houter, hstep⟩ := locate_concat hwalk
  have hdirOuter := find?_of_locate_cons hstep
  obtain rfl := locate_of_yields hyield hd hdir houter hdirOuter
  exact ⟨_, place_eq_ok_iff.mpr
    ⟨route, hroute, .inr ⟨front, last, outer, hnames, houter, hdirOuter, rfl⟩⟩, hslash, hlocation⟩

/-- What is read at a path after a file was put where it led is the content of that file, and the
path still names it. -/
theorem read_of_sets {content data : List UInt8} {mode : Nat} (hl : t.Names working p l)
    (hset : Sets t l (.file content mode) t') (hread : t'.read working p = .ok data) :
    t'.Names working p l ∧ data = content := by
  obtain ⟨l', hresolve, -⟩ := Except.bind_eq_ok_iff.mp hread
  have hnames := names_of_resolve hl hset.yields hresolve
  rw [read_of_names hnames hset.self, Except.ok.injEq] at hread
  exact ⟨hnames, hread.symm⟩

/-- The path names a symbolic link, and leads through that very link on its way there. -/
def ThroughItself (t : Tree) (working : Location) (p : Path) : Prop :=
  ∃ l target, t.Names working p l ∧ t.find? l = some (.link target) ∧ ¬(t.erase l).Names working p l

/-- A file that was put where a path led is read there, unless the path was a way to itself. -/
theorem read_eq_ok_iff_of_sets {content : List UInt8} {mode : Nat} (hl : t.Names working p l)
    (hfree : t.find? l ≠ some .directory) (hset : Sets t l (.file content mode) t') :
    t'.read working p = .ok content ↔ ¬t.ThroughItself working p := by
  -- A file is no way to anything: with it and without it the same ways are left.
  have hput : Sets (t.erase l) l (.file content mode) t' :=
    ⟨hset.self, fun k hk => (hset.other k hk).trans (find?_erase_of_ne t hk).symm⟩
  have hback : KeepsWays t' (t.erase l) := hput.keeps_back nofun
  have hways : KeepsWays (t.erase l) t' :=
    (hput.keepsAll (find?_erase_self t hl.ne_nil)).keepsWays
  constructor
  · rintro hread ⟨k, target, hk, -, hlost⟩
    obtain rfl := hk.unique hl
    exact hlost ((read_of_sets hl hset hread).1.of_keepsWays hback)
  · intro hno
    have hnames : (t.erase l).Names working p l := by
      refine Classical.byContradiction fun hlost => ?_
      -- Only a link could have been a way.
      have herased : KeepsWays t (t.erase l) := by
        apply Keeps.of_find?_eq l fun k hk => find?_erase_of_ne t hk
        intro d hd hway
        cases d with
        | directory => exact hfree hd
        | link target => exact hno ⟨l, target, hl, hd, hlost⟩
        | file old mode => cases hway
      exact hlost (hl.of_keepsWays herased)
    exact read_of_names (hnames.of_keepsWays hways) hset.self

theorem stat_eq_directory_iff :
    t.stat working p = .ok .directory ↔
      ∃ d, t.resolve working p = .ok d ∧ t.find? d = some .directory := by
  unfold stat
  rw [Except.bind_eq_ok_iff]
  apply exists_congr
  intro d
  apply and_congr_right
  intro _
  cases t.find? d with
  | none => simp
  | some e =>
    cases e with
    | directory => simp [pure, Except.pure]
    | file content mode => simp [pure, Except.pure]
    | link target => simp [pure, Except.pure]

/-- Where a path leads to a directory no other one is made. -/
theorem makeDirectory_of_stat (h : t.stat working p = .ok .directory) :
    t.makeDirectory working p = .error (.refused .alreadyExists) := by
  obtain ⟨d, hresolve, hd⟩ := stat_eq_directory_iff.mp h
  obtain ⟨route, hroute, hwalk⟩ := resolve_eq_ok_iff.mp hresolve
  -- Either the last name is none of an entry, or something stands under it.
  suffices hplace : ∃ place, t.place working p = .ok place ∧
      (place.location .alreadyExists = .error (.refused .alreadyExists) ∨
        ∃ l e, place.location .alreadyExists = .ok l ∧ t.find? l = some e) by
    obtain ⟨place, hplace, hrefused | ⟨l, e, hl, he⟩⟩ := hplace
    · rw [makeDirectory, vacancy, hplace, Except.ok_bind, hrefused]
      rfl
    · rw [makeDirectory, vacancy, hplace, Except.ok_bind, hl, Except.ok_bind, he]
      rfl
  rcases List.eq_nil_or_concat route.names with hnames | ⟨front, last, hnames⟩
  · exact ⟨_, place_eq_ok_iff.mpr ⟨route, hroute, .inl ⟨hnames, rfl⟩⟩, .inl rfl⟩
  rw [List.concat_eq_append] at hnames
  have hsteps : ∃ more, route.steps = front ++ last :: more := by
    unfold Route.steps
    rw [hnames]
    split
    · exact ⟨["."], by rw [List.append_assoc]; rfl⟩
    · exact ⟨[], rfl⟩
  obtain ⟨more, hsteps⟩ := hsteps
  rw [hsteps] at hwalk
  obtain ⟨left, outer, houter, hlast⟩ := locate_concat hwalk
  have hdir := find?_of_locate hlast hd
  refine ⟨_, place_eq_ok_iff.mpr
    ⟨route, hroute, .inr ⟨front, last, outer, hnames, houter, hdir, rfl⟩⟩, ?_⟩
  by_cases hdot : last = "."
  · subst hdot
    exact .inl rfl
  by_cases hdots : last = ".."
  · subst hdots
    exact .inl rfl
  by_cases hlong : nameMax < last.utf8ByteSize
  · rw [locate_of_long hdir hdot hdots hlong] at hlast
    cases hlast
  cases hfind : t.find? (last :: outer) with
  | none =>
    rw [locate_of_none hdir hdot hdots hlong hfind] at hlast
    cases hlast
  | some e =>
    have htarget := Target.ofName_eq_name_iff.mpr ⟨hdot, hdots, rfl⟩
    exact .inr ⟨last :: outer, e, Place.location_eq_ok_iff.mpr
      ⟨last, htarget, Nat.le_of_not_lt hlong, rfl⟩, hfind⟩

end Tree

end Sealing.FileSystem
