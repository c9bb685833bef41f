import Sealing.Proofs.FileSystem.Directory
/-!
# Trees with more directories

`Tree.Extends` relates a tree to one with more directories, to each of which one of some paths leads.
It is what the making of directories comes to, call by call.
-/

namespace Sealing.FileSystem

namespace Tree

/-! ## Directories to which paths lead -/

variable {t t' before middle after : Tree} {working : Location} {p : Path} {paths : List Path}

/-- A directory that was made is where its path leads. -/
theorem resolve_of_makeDirectory (h : t.makeDirectory working p = .ok t') :
    ∃ l, t.vacancy working p = .ok l ∧ Sets t l .directory t' ∧ t'.resolve working p = .ok l := by
  obtain ⟨l, hl, rfl⟩ := makeDirectory_eq_ok_iff.mp h
  have hset := Sets.insert t (ne_nil_of_vacancy hl) .directory
  refine ⟨l, hl, hset, ?_⟩
  obtain ⟨place, hplace, hlocation, hnone⟩ := vacancy_eq_ok_iff.mp hl
  -- The way to the place is kept, and leads on to the new directory.
  have hafter := place_of_keepsWays (hset.keepsAll hnone).keepsWays hplace
  obtain ⟨n, htarget, hlength, rfl⟩ := Place.location_eq_ok_iff.mp hlocation
  obtain ⟨route, hroute, ⟨-, rfl⟩ | ⟨front, last, d, hnames, hd, hdir, rfl⟩⟩ :=
    place_eq_ok_iff.mp hafter
  · cases htarget
  obtain ⟨hdot, hdots, rfl⟩ := Target.ofName_eq_name_iff.mp htarget
  obtain ⟨left, hgo⟩ := locate_append_of_ok hd
  refine resolve_eq_ok_iff.mpr ⟨route, hroute, locate_steps ?_ hset.self⟩
  rw [hnames, hgo, locate_of_entry hdir hdot hdots (Nat.not_lt_of_le hlength) hset.self nofun,
    locate]

/-- The working directory is not made. -/
theorem makeDirectory_dot : t.makeDirectory working ⟨"."⟩ ≠ .ok t' := by
  intro h
  obtain ⟨l, hl, -, -⟩ := resolve_of_makeDirectory h
  obtain ⟨place, hplace, hlocation, -⟩ := vacancy_eq_ok_iff.mp hl
  obtain ⟨route, hroute, ⟨-, rfl⟩ | ⟨front, last, d, hnames, -, -, rfl⟩⟩ :=
    place_eq_ok_iff.mp hplace
  · cases hlocation
  · obtain ⟨-, -, -, rfl⟩ := Route.ofPath_eq_ok_iff.mp hroute
    have hdot : (Route.ofText ".").names = [] ++ ["."] := by decide
    rw [hdot] at hnames
    obtain ⟨-, hlast⟩ := List.append_inj' hnames rfl
    cases hlast
    cases hlocation

/-! ## The relation -/

/-- Nothing is gone or changed, and all that is new is directories to which some paths lead. -/
structure Extends (working : Location) (paths : List Path) (before after : Tree) : Prop where
  keeps : KeepsAll before after
  new : ∀ l e, before.find? l = none → after.find? l = some e →
    e = .directory ∧ ∃ p ∈ paths, after.resolve working p = .ok l

theorem Extends.refl (working : Location) (paths : List Path) (t : Tree) :
    Extends working paths t t where
  keeps := .refl _ t
  new := by
    intro l e hnone he
    rw [hnone] at he
    cases he

theorem Extends.trans (h₁ : Extends working paths before middle)
    (h₂ : Extends working paths middle after) : Extends working paths before after where
  keeps := Keeps.trans h₁.keeps h₂.keeps
  new := by
    intro l e hnone he
    cases hmiddle : middle.find? l with
    | none => exact h₂.new l e hmiddle he
    | some d =>
      -- It was made first, and the way to it is kept since.
      obtain ⟨rfl, p, hp, hresolve⟩ := h₁.new l d hnone hmiddle
      have hafter := h₂.keeps l _ hmiddle trivial
      rw [hafter] at he
      cases he
      exact ⟨rfl, p, hp, resolve_of_keepsWays h₂.keeps.keepsWays hresolve hmiddle⟩

theorem Extends.of_makeDirectory (hp : p = ⟨"."⟩ ∨ p ∈ paths)
    (h : t.makeDirectory working p = .ok t') : Extends working paths t t' := by
  rcases hp with rfl | hp
  · exact absurd h makeDirectory_dot
  obtain ⟨l, hl, hset, hresolve⟩ := resolve_of_makeDirectory h
  refine ⟨hset.keepsAll (find?_of_vacancy hl), fun k e hnone he => ?_⟩
  by_cases hkl : k = l
  · subst hkl
    rw [hset.self] at he
    cases he
    exact ⟨rfl, p, hp, hresolve⟩
  · rw [hset.other k hkl, hnone] at he
    cases he

end Tree

end Sealing.FileSystem
