import Sealing.Proofs.FileSystem.Calls
/-!
# Files laid over a path

While files are saved to a path, whatever else happens beside it, the tree changes in few ways:
entries are made where nothing stood, temporary files come and go, and under the name of the path a
file may take any place and is there to stay.  `Tree.Overlays` is this relation.  It leaves every
place where it is, and what it says of the places for temporary files is that they bear another name.
-/

namespace Sealing.FileSystem

/-- The location has the name that the path gives to a file. -/
def Path.EndsIn (p : Path) (l : Location) : Prop :=
  ∃ n, p.fileName? = some n ∧ l.head? = some n

namespace Tree

variable {t t' before middle after : Tree} {working : Location} {p q : Path} {l l' : Location}

/-- What a path names has its name. -/
theorem Names.endsIn (h : t.Names working p l) : p.EndsIn l := by
  obtain ⟨route, front, last, d, hroute, hsteps, -, -, ⟨hdot, hdots, -⟩, rfl⟩ := h.exists_route
  obtain ⟨-, -, -, rfl⟩ := Route.ofPath_eq_ok_iff.mp hroute
  refine ⟨last, ?_, rfl⟩
  -- A slash at the end would have asked for a dot.
  unfold Route.steps at hsteps
  split at hsteps
  · obtain ⟨-, hlast⟩ := List.append_inj' hsteps rfl
    rw [List.cons.injEq] at hlast
    exact absurd hlast.1.symm hdot
  · rename_i hslash
    exact Route.fileName?_of_names hsteps (Bool.not_eq_true _ ▸ hslash) hdot hdots

/-- What is made at a path of a directory and a name has that name. -/
theorem head?_of_vacancy_join {n : String} (hp : p.text ≠ "") (hn : n ≠ "")
    (hslash : '/' ∉ n.toList) (h : t.vacancy working (p.join n) = .ok l) : l.head? = some n := by
  obtain ⟨place, hplace, hl, -⟩ := vacancy_eq_ok_iff.mp h
  obtain ⟨last, htarget, -, rfl⟩ := Place.location_eq_ok_iff.mp hl
  obtain ⟨route, hroute, ⟨-, rfl⟩ | ⟨front, last', d, hnames, -, -, rfl⟩⟩ :=
    place_eq_ok_iff.mp hplace
  · cases htarget
  obtain ⟨-, -, rfl⟩ := Target.ofName_eq_name_iff.mp htarget
  obtain ⟨-, -, -, rfl⟩ := Route.ofPath_eq_ok_iff.mp hroute
  rw [Route.names_join hp hn hslash] at hnames
  obtain ⟨-, hlast⟩ := List.append_inj' hnames rfl
  rw [List.cons.injEq] at hlast
  rw [hlast.1]
  rfl

/-- Where something can be made at a path of a directory and a name, the directory stands. -/
theorem stat_of_vacancy_join {n : String} (hp : p.text ≠ "") (hn : n ≠ "")
    (hslash : '/' ∉ n.toList) (h : t.vacancy working (p.join n) = .ok l) :
    t.stat working p = .ok .directory := by
  obtain ⟨place, hplace, hl, -⟩ := vacancy_eq_ok_iff.mp h
  obtain ⟨last, htarget, -, rfl⟩ := Place.location_eq_ok_iff.mp hl
  obtain ⟨route, hroute, ⟨-, rfl⟩ | ⟨front, last', d, hnames, hd, hdir, rfl⟩⟩ :=
    place_eq_ok_iff.mp hplace
  · cases htarget
  obtain ⟨hnul, -, hlength, rfl⟩ := Route.ofPath_eq_ok_iff.mp hroute
  rw [Route.names_join hp hn hslash] at hnames
  obtain ⟨hfront, -⟩ := List.append_inj' hnames rfl
  have hbase : (Route.ofText (p.join n).text).base working = (Route.ofText p.text).base working := by
    unfold Route.base
    rw [Route.absolute_join hp]
  rw [← hfront, hbase] at hd
  -- The directory is a path that the kernel takes, being the beginning of one.
  have hpath : Route.ofPath p = .ok (Route.ofText p.text) := by
    obtain ⟨more, hmore⟩ := Route.exists_text_join p n
    rw [hmore, String.toList_append] at hnul
    rw [hmore, String.utf8ByteSize_append] at hlength
    exact Route.ofPath_eq_ok_iff.mpr
      ⟨fun hmem => hnul (List.mem_append_left _ hmem), hp, by omega, rfl⟩
  exact stat_eq_directory_iff.mpr
    ⟨d, resolve_eq_ok_iff.mpr ⟨_, hpath, locate_steps hd hdir⟩, hdir⟩

/-- Once a path has led to a directory, none is made on the way there: something stands at every
step of the way, and files at most take its place. -/
theorem vacancy_ancestor_ne_ok (hyield : Yields before after)
    (hstat : before.stat working p = .ok .directory) (hq : q ∈ p.ancestors) :
    after.vacancy working q ≠ .ok l := by
  intro h
  obtain ⟨d, hresolve, hd⟩ := stat_eq_directory_iff.mp hstat
  obtain ⟨route, hroute, hwalk⟩ := resolve_eq_ok_iff.mp hresolve
  obtain ⟨place, hplace, hl, hnone⟩ := vacancy_eq_ok_iff.mp h
  obtain ⟨last, htarget, hlength, rfl⟩ := Place.location_eq_ok_iff.mp hl
  obtain ⟨route', hroute', ⟨-, rfl⟩ | ⟨front, last', outer, hnames, houter, hdir, rfl⟩⟩ :=
    place_eq_ok_iff.mp hplace
  · cases htarget
  obtain ⟨hdot, hdots, rfl⟩ := Target.ofName_eq_name_iff.mp htarget
  obtain ⟨-, -, -, rfl⟩ := Route.ofPath_eq_ok_iff.mp hroute
  obtain ⟨-, -, -, rfl⟩ := Route.ofPath_eq_ok_iff.mp hroute'
  -- The way to the path begins with the names of the directory.
  obtain ⟨habsolute, more, hmore⟩ := Route.names_of_mem_ancestors hq
  obtain ⟨rest, hsteps⟩ : ∃ rest, (Route.ofText p.text).steps = front ++ last' :: rest := by
    unfold Route.steps
    rw [hmore, hnames]
    split
    · exact ⟨more ++ ["."], by simp⟩
    · exact ⟨more, by simp⟩
  have hbase : (Route.ofText q.text).base working = (Route.ofText p.text).base working := by
    unfold Route.base
    rw [habsolute]
  rw [hsteps] at hwalk
  rw [hbase] at houter
  obtain ⟨left, outer', houter', hstep⟩ := locate_concat hwalk
  have hdir' := find?_of_locate hstep hd
  obtain rfl := locate_of_yields hyield houter' hdir' houter hdir
  -- The earlier walk met something under the next name, or it would have ended there, and that was
  -- no file, since it went on to a directory.
  have hlong : ¬nameMax < last'.utf8ByteSize := Nat.not_lt_of_le hlength
  cases hentry : before.find? (last' :: outer) with
  | none =>
    rw [locate_of_none hdir' hdot hdots hlong hentry] at hstep
    cases hstep
  | some e =>
    cases hfile : e.isFile with
    | true =>
      cases e with
      | directory => cases hfile
      | link target => cases hfile
      | file content mode =>
        rw [locate_of_entry hdir' hdot hdots hlong hentry nofun] at hstep
        have hdirectory := find?_of_locate hstep hd
        rw [hentry] at hdirectory
        cases hdirectory
    | false =>
      have hgone : after.find? (last' :: outer) = none := hnone
      rcases hyield _ e hentry hfile with hsame | ⟨content, mode, hplaced⟩
      · rw [hgone] at hsame
        cases hsame
      · rw [hgone] at hplaced
        cases hplaced

/-! ## The relation -/

/-- Every directory and every link is still there, unless a file of the path's name took its place,
and no file of that name is gone. -/
structure Overlays (p : Path) (before after : Tree) : Prop where
  ways : ∀ l e, before.find? l = some e → e.isFile = false →
    after.find? l = some e ∨ p.EndsIn l ∧ after.HasFile l
  files : ∀ l, p.EndsIn l → before.HasFile l → after.HasFile l

theorem Overlays.refl (p : Path) (t : Tree) : Overlays p t t where
  ways := fun _ _ h _ => .inl h
  files := fun _ _ h => h

theorem Overlays.trans (h₁ : Overlays p before middle) (h₂ : Overlays p middle after) :
    Overlays p before after where
  ways := by
    intro l e h he
    rcases h₁.ways l e h he with hsame | ⟨hl, hfile⟩
    · exact h₂.ways l e hsame he
    · exact .inr ⟨hl, h₂.files l hl hfile⟩
  files := fun l hl h => h₂.files l hl (h₁.files l hl h)

theorem Overlays.yields (h : Overlays p before after) : Yields before after := by
  intro l e hl he
  rcases h.ways l e hl he with hsame | ⟨-, hfile⟩
  · exact .inl hsame
  · exact .inr hfile

/-- A path names one location, whenever it names one. -/
theorem Overlays.names_unique (h : Overlays p before after) (hl : before.Names working q l)
    (hl' : after.Names working q l') : l' = l := by
  obtain ⟨place, hplace, -, hl⟩ := hl
  obtain ⟨place', hplace', -, hl'⟩ := hl'
  rw [place_of_yields h.yields hplace hplace', hl] at hl'
  cases hl'
  rfl

/-- Where a temporary file was made it is found again under its path. -/
theorem Overlays.names_vacancy (h : Overlays p before after)
    (hl : before.vacancy working q = .ok l) (hl' : after.Names working q l') : l' = l := by
  obtain ⟨place, hplace, hlocation, -⟩ := vacancy_eq_ok_iff.mp hl
  obtain ⟨place', hplace', -, hl'⟩ := hl'
  rw [place_of_yields h.yields hplace hplace', Place.location_of_location hlocation .busy] at hl'
  cases hl'
  rfl

end Tree

end Sealing.FileSystem
