import Sealing.Proofs.FileSystem.Overlay
/-!
# The directory of a path

The directory of a path is a beginning of its text, cut off behind the last component but one, or the
working directory.  So the directories that are made for a file bear beginnings of its path, and from
a path that leads to a file its directory can be found.
-/

namespace Sealing.FileSystem

namespace Path

/-! ## Beginnings of paths -/

/-- The paths that a path begins with, each one up to the end of a component, apart from the one that
ends with the last component. -/
def openings (p : Path) : List Path :=
  p.located.dropLast.map fun c => p.upTo c.2

theorem upTo_upTo (p : Path) (m n : Nat) : (p.upTo n).upTo m = p.upTo (min m n) := by
  unfold upTo
  rw [String.toList_ofList, List.take_take]

theorem lt_of_mem_locatedFrom {start : Nat} {ss : List (List Char)} {c : Component × Nat}
    (h : c ∈ locatedFrom start ss) : start < c.2 := by
  induction ss generalizing start with
  | nil => cases h
  | cons s ss ih =>
    rw [locatedFrom] at h
    split at h
    · rename_i component hs
      have hlength : 0 < s.length := List.length_pos_iff.mpr (ne_nil_of_component? hs)
      rcases List.mem_cons.mp h with rfl | h
      · show start < start + s.length
        omega
      · have := ih h
        omega
    · have := ih h
      omega

/-- The components end one after the other. -/
theorem pairwise_locatedFrom (start : Nat) (ss : List (List Char)) :
    (locatedFrom start ss).Pairwise fun c d => c.2 < d.2 := by
  induction ss generalizing start with
  | nil => exact .nil
  | cons s ss ih =>
    rw [locatedFrom]
    split
    · refine .cons (fun d hd => ?_) (ih _)
      have hlt := lt_of_mem_locatedFrom hd
      show start + s.length < d.2
      omega
    · exact ih _

/-- The components of a text end within it. -/
theorem le_of_mem_locatedFrom_segments {start : Nat} {cs : List Char} {c : Component × Nat}
    (h : c ∈ locatedFrom start (segments cs)) : c.2 ≤ start + cs.length := by
  generalize hss : segments cs = ss at h
  induction ss generalizing cs start with
  | nil => cases h
  | cons s ss ih =>
    rw [locatedFrom] at h
    rcases segments_eq_cons hss with ⟨rfl, rfl⟩ | ⟨rest, rfl, hrest⟩
    · -- A text without a slash has one component at most, and that is all of it.
      split at h
      · exact Nat.le_of_eq (congrArg Prod.snd (List.mem_singleton.mp h))
      · cases h
    · rw [List.length_append, List.length_cons]
      split at h
      · rcases List.mem_cons.mp h with rfl | h
        · show start + s.length ≤ _
          omega
        · have := ih hrest h
          omega
      · have := ih hrest h
        omega

/-- The components of a path end one after the other, and within its text. -/
theorem pairwise_located (p : Path) :
    (p.located.Pairwise fun c d => c.2 < d.2) ∧
      ∀ c ∈ p.located, 0 < c.2 ∧ c.2 ≤ p.text.toList.length := by
  have hbound (c) (hc : c ∈ locatedFrom 0 (segments p.text.toList)) :
      0 < c.2 ∧ c.2 ≤ p.text.toList.length := by
    have hle := le_of_mem_locatedFrom_segments hc
    rw [Nat.zero_add] at hle
    exact ⟨lt_of_mem_locatedFrom hc, hle⟩
  -- The root or the dot in front is one character, and the next component ends behind it.
  have hfront (c) (hne : p.text.toList ≠ [])
      (hafter : ∀ d ∈ locatedFrom 0 (segments p.text.toList), 1 < d.2) :
      ((c, 1) :: locatedFrom 0 (segments p.text.toList)).Pairwise (fun c d => c.2 < d.2) ∧
        ∀ d ∈ (c, 1) :: locatedFrom 0 (segments p.text.toList),
          0 < d.2 ∧ d.2 ≤ p.text.toList.length := by
    refine ⟨.cons hafter (pairwise_locatedFrom 0 _), fun d hd => ?_⟩
    rcases List.mem_cons.mp hd with rfl | hd
    · exact ⟨Nat.one_pos, List.length_pos_iff.mpr hne⟩
    · exact hbound d hd
  simp only [located]
  split
  · rename_i habsolute
    obtain ⟨cs, hcs⟩ := List.head?_eq_some_iff.mp (of_decide_eq_true habsolute)
    apply hfront
    · rw [hcs]
      exact List.cons_ne_nil _ _
    · intro d hd
      rw [hcs, segments, if_pos rfl] at hd
      have hrest : d ∈ locatedFrom 1 (segments cs) := hd
      exact lt_of_mem_locatedFrom hrest
  · split
    · rename_i hdot
      obtain ⟨ss, hss⟩ := List.head?_eq_some_iff.mp hdot
      apply hfront
      · intro hnil
        rw [hnil] at hdot
        cases hdot
      · intro d hd
        rw [hss] at hd
        have hrest : d ∈ locatedFrom 2 ss := hd
        have hlt := lt_of_mem_locatedFrom hrest
        omega
    · exact ⟨pairwise_locatedFrom 0 _, hbound⟩

theorem text_upTo_ne {p : Path} {c : Component × Nat} (h : c ∈ p.located) :
    (p.upTo c.2).text ≠ "" := by
  obtain ⟨hpos, hle⟩ := p.pairwise_located.2 c h
  intro hempty
  have hlength := congrArg List.length (congrArg String.toList hempty)
  rw [upTo, String.toList_ofList, List.length_take] at hlength
  have hzero : min c.2 p.text.toList.length = 0 := hlength
  omega

theorem located_of_isAbsolute {p : Path} (h : p.isAbsolute = true) :
    p.located = (.root, 1) :: locatedFrom 0 (segments p.text.toList) := by
  simp only [located, h, if_true]

/-- The directory of a path is the working directory, or the beginning of the path that ends with a
component other than its last one. -/
theorem directory_cases (p : Path) :
    p.directory = ⟨"."⟩ ∧ (p.isAbsolute = true → p.fileName? = none) ∨
      ∃ c ∈ p.located.dropLast, p.directory = p.upTo c.2 := by
  have hlocated : p.located = p.located.reverse.reverse := (List.reverse_reverse _).symm
  unfold directory parent?
  cases hreverse : p.located.reverse with
  | nil =>
    refine .inl ⟨rfl, fun _ => ?_⟩
    rw [hreverse] at hlocated
    rw [fileName?, components, hlocated]
    rfl
  | cons last outer =>
    rw [hreverse] at hlocated
    obtain ⟨lastComponent, lastStop⟩ := last
    by_cases hroot : lastComponent = .root
    · subst hroot
      refine .inl ⟨rfl, fun _ => ?_⟩
      rw [fileName?, components, hlocated, List.getLast?_map, List.getLast?_reverse]
      rfl
    cases outer with
    | nil =>
      -- A single component is not the root, so that the path is no absolute one.
      left
      refine ⟨by cases lastComponent <;> first | exact absurd rfl hroot | rfl, fun habsolute => ?_⟩
      rw [located_of_isAbsolute habsolute] at hlocated
      have hhead := congrArg List.head? hlocated
      cases hhead
      exact absurd rfl hroot
    | cons before outer =>
      obtain ⟨c, stop⟩ := before
      right
      have hmem : (c, stop) ∈ p.located.dropLast := by
        rw [hlocated, List.reverse_cons, List.dropLast_concat, List.mem_reverse]
        exact List.mem_cons_self
      refine ⟨(c, stop), hmem, ?_⟩
      have hne := text_upTo_ne (List.dropLast_subset _ hmem)
      cases lastComponent with
      | root => exact absurd rfl hroot
      | current => exact if_neg hne
      | parent => exact if_neg hne
      | name n => exact if_neg hne

/-- The root is one character, a slash. -/
theorem upTo_of_root_mem {p : Path} {c : Component × Nat} (h : c ∈ p.located)
    (hroot : c.1 = .root) : p.upTo c.2 = ⟨"/"⟩ := by
  simp only [located] at h
  split at h
  · rename_i habsolute
    obtain ⟨cs, hcs⟩ := List.head?_eq_some_iff.mp (of_decide_eq_true habsolute)
    rcases List.mem_cons.mp h with heq | h
    · cases heq
      unfold upTo
      rw [hcs]
      rfl
    · exact absurd hroot (ne_root_of_mem_locatedFrom h)
  · split at h
    · rcases List.mem_cons.mp h with rfl | h
      · cases hroot
      · exact absurd hroot (ne_root_of_mem_locatedFrom h)
    · exact absurd hroot (ne_root_of_mem_locatedFrom h)

/-- A component that ends no later than one before the last is not the last. -/
theorem mem_dropLast_located {p : Path} {c d : Component × Nat} (hc : c ∈ p.located.dropLast)
    (hd : d ∈ p.located) (hle : d.2 ≤ c.2) : d ∈ p.located.dropLast := by
  obtain ⟨hpairs, -⟩ := p.pairwise_located
  rcases List.eq_nil_or_concat p.located with hnil | ⟨front, last, hlast⟩
  · rw [hnil] at hd
    cases hd
  · rw [List.concat_eq_append] at hlast
    rw [hlast] at hpairs hd
    rw [hlast, List.dropLast_concat] at hc ⊢
    rcases List.mem_append.mp hd with hd | hd
    · exact hd
    · -- All else ends before the last one does.
      have hlt : c.2 < last.2 := (List.pairwise_append.mp hpairs).2.2 c hc last List.mem_cons_self
      rw [List.mem_singleton.mp hd] at hle
      exact absurd hle (Nat.not_le_of_gt hlt)

theorem mem_locatedFrom_append {start : Nat} {ss : List (List Char)} {c : Component × Nat}
    (rest : List (List Char)) (h : c ∈ locatedFrom start ss) : c ∈ locatedFrom start (ss ++ rest) := by
  induction ss generalizing start with
  | nil => cases h
  | cons s ss ih =>
    rw [List.cons_append, locatedFrom]
    rw [locatedFrom] at h
    split at h
    · rcases List.mem_cons.mp h with rfl | h
      · exact List.mem_cons_self
      · exact List.mem_cons_of_mem _ (ih h)
    · exact ih h

/-- The components of a beginning of a path are components of the path. -/
theorem mem_located_of_mem_upTo {p : Path} {c d : Component × Nat} (hc : c ∈ p.located)
    (hroot : c.1 ≠ .root) (hd : d ∈ (p.upTo c.2).located) : d ∈ p.located ∧ d.2 ≤ c.2 := by
  have htext : (p.upTo c.2).text.toList = p.text.toList.take c.2 := String.toList_ofList
  obtain ⟨hpos, ⟨rest, hrest⟩, -⟩ := segments_take_of_mem_located hc hroot
  rw [← htext] at hrest
  refine ⟨?_, ?_⟩
  · have habsolute : (p.upTo c.2).isAbsolute = p.isAbsolute := by
      unfold isAbsolute
      rw [htext, List.head?_take, if_neg (Nat.ne_of_gt hpos)]
    have hhead : (segments p.text.toList).head? = (segments (p.upTo c.2).text.toList).head? := by
      obtain ⟨first, others, hfirst⟩ := List.exists_cons_of_ne_nil (segments_ne_nil _)
      rw [hrest, hfirst, List.cons_append, List.head?_cons, List.head?_cons]
    simp only [located] at hd ⊢
    rw [habsolute] at hd
    rw [hhead]
    have hmem (h : d ∈ locatedFrom 0 (segments (p.upTo c.2).text.toList)) :
        d ∈ locatedFrom 0 (segments p.text.toList) := by
      rw [hrest]
      exact mem_locatedFrom_append rest h
    split at hd
    · rename_i hroot
      rw [if_pos hroot]
      exact List.mem_cons.mpr ((List.mem_cons.mp hd).imp_right hmem)
    · rename_i hrelative
      rw [if_neg hrelative]
      split at hd
      · rename_i hdot
        rw [if_pos hdot]
        exact List.mem_cons.mpr ((List.mem_cons.mp hd).imp_right hmem)
      · rename_i hdot
        rw [if_neg hdot]
        exact hmem hd
  · obtain ⟨-, hle⟩ := (p.upTo c.2).pairwise_located.2 d hd
    rw [htext, List.length_take] at hle
    exact Nat.le_trans hle (Nat.min_le_left ..)

/-- The directories that are made for a file are named by paths that its path begins with, unless
that is the working directory. -/
theorem mem_openings_of_mem_ancestors {p q : Path} (h : q ∈ p.directory.ancestors) :
    q = ⟨"."⟩ ∨ q ∈ p.openings := by
  rcases p.directory_cases with ⟨hdot, -⟩ | ⟨c, hc, hcut⟩
  · rw [hdot] at h
    exact .inl (List.mem_singleton.mp h)
  · right
    have hlocated := List.dropLast_subset _ hc
    rw [hcut] at h
    by_cases hroot : c.1 = .root
    · -- Nothing is made on the way to the root.
      rw [upTo_of_root_mem hlocated hroot] at h
      cases h
    unfold ancestors at h
    split at h
    · cases h
    · rename_i last outer hreverse
      rcases List.mem_append.mp h with h | h
      · split at h
        · cases h
        · rw [List.mem_singleton.mp h]
          exact List.mem_map_of_mem hc
      · obtain ⟨d, hd, rfl⟩ := List.mem_map.mp h
        have hmem : d ∈ (p.upTo c.2).located := by
          rw [← List.mem_reverse, hreverse]
          exact List.mem_cons_of_mem _ (List.mem_filter.mp hd).1
        obtain ⟨hd, hle⟩ := mem_located_of_mem_upTo hlocated hroot hmem
        rw [upTo_upTo, Nat.min_eq_left hle]
        exact List.mem_map_of_mem (mem_dropLast_located hc hd hle)

end Path

/-- The kernel takes the beginnings of a path that it takes. -/
theorem Route.ofPath_upTo {p : Path} {route : Route} {n : Nat} (h : ofPath p = .ok route)
    (hne : (p.upTo n).text ≠ "") : ofPath (p.upTo n) = .ok (ofText (p.upTo n).text) := by
  obtain ⟨hnul, -, hlength, -⟩ := ofPath_eq_ok_iff.mp h
  have htext : p.text = (p.upTo n).text ++ String.ofList (p.text.toList.drop n) := by
    rw [← String.toList_inj, String.toList_append, Path.upTo, String.toList_ofList,
      String.toList_ofList, List.take_append_drop]
  refine ofPath_eq_ok_iff.mpr ⟨?_, hne, ?_, rfl⟩
  · intro hmem
    apply hnul
    rw [htext, String.toList_append]
    exact List.mem_append_left _ hmem
  · rw [htext, String.utf8ByteSize_append] at hlength
    omega

namespace Tree

variable {t : Tree} {working : Location} {p : Path} {l : Location}

/-- A beginning of a path that leads somewhere leads somewhere, if it ends with a component. -/
theorem exists_resolve_upTo {c : Component × Nat} (hmem : c ∈ p.located)
    (hresolve : t.resolve working p = .ok l) : ∃ d, t.resolve working (p.upTo c.2) = .ok d := by
  by_cases hroot : c.1 = .root
  · rw [Path.upTo_of_root_mem hmem hroot]
    refine ⟨[], resolve_eq_ok_iff.mpr ⟨Route.ofText "/", rfl, ?_⟩⟩
    show t.locate linkMax [] ["."] = .ok []
    rw [locate_dot t.find?_nil, locate]
  obtain ⟨route, hroute, hwalk⟩ := resolve_eq_ok_iff.mp hresolve
  obtain ⟨-, -, -, rfl⟩ := Route.ofPath_eq_ok_iff.mp hroute
  obtain ⟨habsolute, ⟨more, hmore⟩, hslash⟩ := Route.names_upTo hmem hroot
  have hroute' := Route.ofPath_upTo hroute (Path.text_upTo_ne hmem)
  -- The walk along the path begins with the one along its beginning.
  obtain ⟨rest, hsteps⟩ : ∃ rest,
      (Route.ofText p.text).steps = (Route.ofText (p.upTo c.2).text).names ++ rest := by
    unfold Route.steps
    rw [hmore]
    split
    · exact ⟨more ++ ["."], List.append_assoc ..⟩
    · exact ⟨more, rfl⟩
  have hsame : (Route.ofText (p.upTo c.2).text).steps =
      (Route.ofText (p.upTo c.2).text).names := by
    unfold Route.steps
    rw [hslash]
    rfl
  have hbase : (Route.ofText (p.upTo c.2).text).base working =
      (Route.ofText p.text).base working := by
    unfold Route.base
    rw [habsolute]
  rw [hsteps, ← hbase] at hwalk
  rcases t.locate_append linkMax ((Route.ofText (p.upTo c.2).text).base working)
      (Route.ofText (p.upTo c.2).text).names with ⟨e, herror⟩ | ⟨left, d, hgo⟩
  · rw [herror] at hwalk
    cases hwalk
  · refine ⟨d, resolve_eq_ok_iff.mpr ⟨_, hroute', ?_⟩⟩
    rw [hsame, ← List.append_nil (Route.ofText (p.upTo c.2).text).names, hgo, locate]

/-- From a path that leads to a file its directory can be found. -/
theorem exists_resolve_directory {content : List UInt8} {mode : Nat} (hl : t.Names working p l)
    (hfile : t.find? l = some (.file content mode)) :
    ∃ d, t.resolve working p.directory = .ok d := by
  rcases p.directory_cases with ⟨hdot, habsolute⟩ | ⟨c, hc, hcut⟩
  · -- A path with a file name leads from the working directory, if that is its directory.
    obtain ⟨n, hname, -⟩ := hl.endsIn
    obtain ⟨route, front, last, d, hroute, -, hd, hdir, -, rfl⟩ := hl.exists_route
    obtain ⟨-, -, -, rfl⟩ := Route.ofPath_eq_ok_iff.mp hroute
    have hrelative : (Route.ofText p.text).absolute = false := by
      rw [← Bool.not_eq_true]
      intro hroot
      rw [habsolute hroot] at hname
      cases hname
    have hworking : t.find? working = some .directory := by
      have hbase := find?_of_locate hd hdir
      unfold Route.base at hbase
      rwa [hrelative] at hbase
    rw [hdot]
    refine ⟨working, resolve_eq_ok_iff.mpr ⟨Route.ofText ".", rfl, ?_⟩⟩
    show t.locate linkMax working ["."] = .ok working
    rw [locate_dot hworking, locate]
  · rw [hcut]
    exact exists_resolve_upTo (List.dropLast_subset _ hc) (resolve_of_names hl hfile)

end Tree

end Sealing.FileSystem
