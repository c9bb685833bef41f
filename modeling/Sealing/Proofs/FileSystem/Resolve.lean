import Sealing.Proofs.FileSystem.Locate
import Sealing.Proofs.FileSystem.Path
import Sealing.Proofs.Outcome
/-!
# Resolution by look-ups

What `Tree.resolve` and `Tree.place` answer, in terms of `Tree.locate`.  A place found once is found
again as long as the directories and links are kept, whatever becomes of the files.
-/

namespace Sealing.FileSystem.Tree

variable {t before after : Tree} {working : Location} {p : Path}

theorem follow_eq_ok_iff {r : Route} {names : List String} {here : Position} :
    t.follow working r names = .ok here ↔
      ∃ d, t.locate linkMax (r.base working) names = .ok d ∧ t.position d = here := by
  rw [follow, Route.start_position, walk_position, Except.mapError_eq_ok_iff,
    Except.map_eq_ok_iff]

theorem resolve_eq_ok_iff {l : Location} :
    t.resolve working p = .ok l ↔
      ∃ route, Route.ofPath p = .ok route ∧
        t.locate linkMax (route.base working) route.steps = .ok l := by
  unfold resolve
  rw [Except.bind_eq_ok_iff]
  constructor
  · rintro ⟨route, hroute, h⟩
    rw [Except.bind_eq_ok_iff] at h
    obtain ⟨here, hfollow, hl⟩ := h
    obtain ⟨d, hd, rfl⟩ := follow_eq_ok_iff.mp hfollow
    cases hl
    rw [location_position]
    exact ⟨route, hroute, hd⟩
  · rintro ⟨route, hroute, hd⟩
    refine ⟨route, hroute, ?_⟩
    rw [follow_eq_ok_iff.mpr ⟨l, hd, rfl⟩, Except.ok_bind, location_position]
    rfl

/-- A place is the root or a last name in the directory that the names before it lead to. -/
theorem place_eq_ok_iff {place : Place} :
    t.place working p = .ok place ↔
      ∃ route, Route.ofPath p = .ok route ∧
        (route.names = [] ∧ place = ⟨[], .root, route.slash⟩ ∨
          ∃ front last d, route.names = front ++ [last] ∧
            t.locate linkMax (route.base working) front = .ok d ∧
            t.find? d = some .directory ∧ place = ⟨d, .ofName last, route.slash⟩) := by
  unfold Tree.place
  rw [Except.bind_eq_ok_iff]
  apply exists_congr
  intro route
  apply and_congr_right
  intro _
  rcases List.eq_nil_or_concat route.names with hnames | ⟨front, last, hnames⟩
  · -- No names at all: the root, whatever the tree.
    rw [hnames]
    constructor
    · intro h
      cases h
      exact .inl ⟨rfl, rfl⟩
    · rintro (⟨-, rfl⟩ | ⟨front, last, d, hcons, -⟩)
      · rfl
      · simp at hcons
  · rw [List.concat_eq_append] at hnames
    rw [hnames, List.getLast?_concat, List.dropLast_concat]
    constructor
    · intro h
      obtain ⟨here, hfollow, h⟩ := Except.bind_eq_ok_iff.mp h
      obtain ⟨d, hd, rfl⟩ := follow_eq_ok_iff.mp hfollow
      by_cases hdir : t.find? d = some .directory
      · rw [(isDirectory_position t d).mpr hdir] at h
        cases h
        rw [location_position]
        exact .inr ⟨front, last, d, rfl, hd, hdir, rfl⟩
      · rw [(isDirectory_position_eq_false t d).mpr hdir] at h
        cases h
    · rintro (⟨hnil, -⟩ | ⟨front', last', d, hcons, hd, hdir, rfl⟩)
      · simp at hnil
      · obtain ⟨rfl, hlast⟩ := List.append_inj' hcons rfl
        cases hlast
        rw [follow_eq_ok_iff.mpr ⟨d, hd, rfl⟩]
        simp only [Except.ok_bind, (isDirectory_position t d).mpr hdir, location_position]
        rfl

/-- A place stays where it is as long as the ways are kept. -/
theorem place_of_keepsWays (hkeep : KeepsWays before after) {place : Place}
    (h : before.place working p = .ok place) : after.place working p = .ok place := by
  rw [place_eq_ok_iff] at h ⊢
  obtain ⟨route, hroute, hroot | ⟨front, last, d, hnames, hd, hdir, hplace⟩⟩ := h
  · exact ⟨route, hroute, .inl hroot⟩
  · exact ⟨route, hroute, .inr ⟨front, last, d, hnames, locate_of_keepsWays hkeep hd hdir,
      hkeep d _ hdir rfl, hplace⟩⟩

/-- A place that is found once more, after files took the place of directories and links, is the one
that it was. -/
theorem place_of_yields (hyield : Yields before after) {place place' : Place}
    (h : before.place working p = .ok place) (h' : after.place working p = .ok place') :
    place' = place := by
  obtain ⟨route, hroute, h⟩ := place_eq_ok_iff.mp h
  obtain ⟨route', hroute', h'⟩ := place_eq_ok_iff.mp h'
  rw [hroute] at hroute'
  cases hroute'
  rcases h with ⟨hnil, rfl⟩ | ⟨front, last, d, hnames, hd, hdir, rfl⟩
  · rcases h' with ⟨-, rfl⟩ | ⟨front', last', d', hnames', -⟩
    · rfl
    · rw [hnil] at hnames'
      simp at hnames'
  · rcases h' with ⟨hnil', -⟩ | ⟨front', last', d', hnames', hd', hdir', rfl⟩
    · rw [hnames] at hnil'
      simp at hnil'
    · obtain ⟨rfl, hlast⟩ := List.append_inj' (hnames.symm.trans hnames') rfl
      cases hlast
      rw [locate_of_yields hyield hd hdir hd' hdir']

/-- A path to a directory leads to the same directory as long as the ways are kept. -/
theorem resolve_of_keepsWays (hkeep : KeepsWays before after) {d : Location}
    (h : before.resolve working p = .ok d) (hdir : before.find? d = some .directory) :
    after.resolve working p = .ok d := by
  rw [resolve_eq_ok_iff] at h ⊢
  obtain ⟨route, hroute, hd⟩ := h
  exact ⟨route, hroute, locate_of_keepsWays hkeep hd hdir⟩

theorem slash_of_place_join {n : String} {place : Place} (hn : n ≠ "") (hslash : '/' ∉ n.toList)
    (h : t.place working (p.join n) = .ok place) : place.slash = false := by
  obtain ⟨route, hroute, hplace⟩ := place_eq_ok_iff.mp h
  obtain ⟨-, -, -, rfl⟩ := Route.ofPath_eq_ok_iff.mp hroute
  rcases hplace with ⟨-, rfl⟩ | ⟨front, last, d, -, -, -, rfl⟩
  · exact Route.slash_join p hn hslash
  · exact Route.slash_join p hn hslash

/-- A walk along the names of a path is one along all names but the last, and a step to that one. -/
theorem locate_concat {links : Nat} {here d : Location} {front : List String} {n : String}
    {more : List String} (hd : t.locate links here (front ++ n :: more) = .ok d) :
    ∃ left outer, t.locate links here front = .ok outer ∧
      t.locate left outer (n :: more) = .ok d := by
  rcases t.locate_append links here front with ⟨e, herror⟩ | ⟨left, outer, hgo⟩
  · rw [herror] at hd
    cases hd
  · refine ⟨left, outer, ?_, ?_⟩
    · rw [← List.append_nil front, hgo, locate]
    · rw [← hgo, hd]

end Sealing.FileSystem.Tree
