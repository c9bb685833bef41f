import Sealing.Proofs.FileSystem.Directory
/-!
# A name below a directory

A name that is joined to a path stands behind all components of that path (`located_join`).  The
directory of a path is cut off behind a component, so that a name joined to it has that very directory
for its parent (`parent?_join_directory`).
-/

namespace Sealing.FileSystem.Path

/-! ## Segments one behind the other -/

/-- The number of characters that segments take, each with a slash behind it. -/
def extent : List (List Char) → Nat
  | [] => 0
  | s :: ss => s.length + 1 + extent ss

/-- A text has the characters of its segments, without the slash behind the last. -/
theorem extent_segments (cs : List Char) : extent (segments cs) = cs.length + 1 := by
  induction cs with
  | nil => rfl
  | cons c cs ih =>
    by_cases hc : c = '/'
    · rw [hc, segments, if_pos rfl, extent]
      show 0 + 1 + extent (segments cs) = _
      rw [ih, List.length_cons]
      omega
    · obtain ⟨s, ss, hs⟩ := List.exists_cons_of_ne_nil (segments_ne_nil cs)
      rw [hs, extent] at ih
      rw [segments_cons_of_ne hc hs, extent, List.length_cons,
        List.length_cons]
      omega

theorem locatedFrom_append (start : Nat) (ss ts : List (List Char)) :
    locatedFrom start (ss ++ ts) = locatedFrom start ss ++ locatedFrom (start + extent ss) ts := by
  induction ss generalizing start with
  | nil => rfl
  | cons s ss ih =>
    have hextent : start + extent (s :: ss) = start + s.length + 1 + extent ss := by
      rw [extent]
      omega
    rw [List.cons_append, locatedFrom, locatedFrom, hextent, ih]
    cases component? s with
    | none => rfl
    | some c => rfl

/-! ## Joined names -/

/-- The segments of a path with a name joined to it are those of the path and the name, but that the
empty one behind a slash at the end of the path gives way to the name. -/
theorem segments_join {p : Path} {n : String} (hp : p.text ≠ "") (hslash : '/' ∉ n.toList) :
    ∃ s ss, segments (p.join n).text.toList = s :: ss ++ [n.toList] ∧
      (segments p.text.toList = s :: ss ∨ segments p.text.toList = s :: ss ++ [[]]) := by
  unfold join
  by_cases hend : p.text.toList.getLast? = some '/'
  · obtain ⟨xs, hxs⟩ := List.getLast?_eq_some_iff.mp hend
    obtain ⟨s, ss, hs⟩ := List.exists_cons_of_ne_nil (segments_ne_nil xs)
    rw [if_pos (Or.inr hend)]
    refine ⟨s, ss, ?_, .inr ?_⟩
    · rw [String.toList_append, hxs, List.append_assoc, List.singleton_append,
        segments_append_slash, segments_of_slash_not_mem hslash, hs]
    · rw [hxs, segments_append_slash, hs]
      rfl
  · obtain ⟨s, ss, hs⟩ := List.exists_cons_of_ne_nil (segments_ne_nil p.text.toList)
    have hone : "/".toList = ['/'] := rfl
    rw [if_neg (not_or.mpr ⟨hp, hend⟩)]
    refine ⟨s, ss, ?_, .inl hs⟩
    rw [String.toList_append, String.toList_append, hone, List.append_assoc, List.singleton_append,
      segments_append_slash, segments_of_slash_not_mem hslash, hs]

/-- A name that is joined to a path is its last component, behind those that it has. -/
theorem located_join {p : Path} {n : String} (hp : p.text ≠ "") (hslash : '/' ∉ n.toList)
    (hname : component? n.toList = some (.name n)) :
    ∃ stop, (p.join n).located = p.located ++ [(.name n, stop)] := by
  obtain ⟨first, ss, hjoin, hpath⟩ := segments_join hp hslash
  have hhead : (segments (p.join n).text.toList).head? = (segments p.text.toList).head? := by
    rcases hpath with hss | hss
    · rw [hjoin, hss]
      rfl
    · rw [hjoin, hss]
      rfl
  have hlocated : locatedFrom 0 (segments p.text.toList) = locatedFrom 0 (first :: ss) := by
    rcases hpath with hss | hss
    · rw [hss]
    · rw [hss, locatedFrom_append]
      exact List.append_nil _
  have hlast : locatedFrom 0 (segments (p.join n).text.toList) =
      locatedFrom 0 (segments p.text.toList) ++
        [(.name n, extent (first :: ss) + n.toList.length)] := by
    rw [hjoin, locatedFrom_append, hlocated, Nat.zero_add, locatedFrom]
    simp only [hname, locatedFrom]
  have habsolute : (p.join n).isAbsolute = p.isAbsolute := Route.absolute_join hp n
  refine ⟨extent (first :: ss) + n.toList.length, ?_⟩
  simp only [located, hhead, habsolute, hlast]
  split
  · rfl
  · split
    · rfl
    · rfl

theorem fileName?_join {p : Path} {n : String} (hp : p.text ≠ "") (hslash : '/' ∉ n.toList)
    (hname : component? n.toList = some (.name n)) : (p.join n).fileName? = some n := by
  obtain ⟨stop, hlocated⟩ := located_join hp hslash hname
  unfold fileName? components
  rw [hlocated, List.map_append, List.map_singleton, List.getLast?_concat]

/-- The parent of a name joined to a path is the path up to the end of its last component. -/
theorem parent?_join {p : Path} {n : String} {c : Component} {stop : Nat} (hp : p.text ≠ "")
    (hslash : '/' ∉ n.toList) (hname : component? n.toList = some (.name n))
    (hlast : p.located.getLast? = some (c, stop)) : (p.join n).parent? = some (p.upTo stop) := by
  obtain ⟨end', hlocated⟩ := located_join hp hslash hname
  obtain ⟨front, hfront⟩ := List.getLast?_eq_some_iff.mp hlast
  have hreverse : (p.join n).located.reverse =
      (.name n, end') :: (c, stop) :: front.reverse := by
    rw [hlocated, hfront]
    simp
  have hcut : (p.join n).upTo stop = p.upTo stop := by
    obtain ⟨more, hmore⟩ := Route.exists_text_join p n
    have hle : stop ≤ p.text.toList.length :=
      (p.pairwise_located.2 _ (List.mem_of_getLast? hlast)).2
    unfold upTo
    rw [hmore, String.toList_append, List.take_append_of_le_length hle]
  unfold parent?
  rw [hreverse, ← hcut]

/-! ## Directories end with a component -/

theorem mem_located {p : Path} {c : Component × Nat}
    (h : c ∈ locatedFrom 0 (segments p.text.toList)) : c ∈ p.located := by
  simp only [located]
  split
  · exact List.mem_cons_of_mem _ h
  · split
    · exact List.mem_cons_of_mem _ h
    · exact h

/-- A component is found in the text up to its end. -/
theorem mem_locatedFrom_take {start : Nat} {c : Component × Nat} {cs : List Char}
    (h : c ∈ locatedFrom start (segments cs)) :
    c ∈ locatedFrom start (segments (cs.take (c.2 - start))) := by
  obtain ⟨length, rest, hstop, -, hrest, -⟩ := segments_take_of_mem_locatedFrom h
  have hle := le_of_mem_locatedFrom_segments h
  have hcut : c.2 - start = length := by omega
  have htake : (cs.take length).length = length := List.length_take_of_le (by omega)
  rw [hrest, locatedFrom_append, extent_segments, htake] at h
  rw [hcut]
  rcases List.mem_append.mp h with h | h
  · exact h
  · -- What stands behind the cut ends behind it.
    have hlt := lt_of_mem_locatedFrom h
    omega

/-- A path that is cut off behind a component still has it. -/
theorem mem_located_upTo {p : Path} {c : Component × Nat} (h : c ∈ p.located)
    (hroot : c.1 ≠ .root) : c ∈ (p.upTo c.2).located := by
  have htext : (p.upTo c.2).text.toList = p.text.toList.take c.2 := String.toList_ofList
  have hfrom (hmem : c ∈ locatedFrom 0 (segments p.text.toList)) : c ∈ (p.upTo c.2).located := by
    apply mem_located
    rw [htext]
    exact mem_locatedFrom_take hmem
  simp only [located] at h
  split at h
  · rcases List.mem_cons.mp h with rfl | h
    · exact absurd rfl hroot
    · exact hfrom h
  · split at h
    · rename_i hdot
      rcases List.mem_cons.mp h with rfl | h
      · -- The dot that the path begins with is the whole of its beginning.
        have hbeginning : p.upTo 1 = ⟨"."⟩ := by
          rw [upTo, take_one_of_head?_segments hdot]
        rw [hbeginning]
        exact List.mem_singleton.mpr rfl
      · exact hfrom h
    · exact hfrom h

/-- The last component of a path that is cut off behind a component ends with its text. -/
theorem getLast?_located_upTo {p : Path} {c : Component × Nat} (h : c ∈ p.located) :
    ∃ last, (p.upTo c.2).located.getLast? = some (last, (p.upTo c.2).text.toList.length) := by
  by_cases hroot : c.1 = .root
  · rw [upTo_of_root_mem h hroot]
    exact ⟨.root, by decide⟩
  have hmem := mem_located_upTo h hroot
  obtain ⟨hpairs, hbound⟩ := (p.upTo c.2).pairwise_located
  obtain ⟨front, ⟨last, stop⟩, hlast⟩ : ∃ front last, (p.upTo c.2).located = front ++ [last] := by
    rcases List.eq_nil_or_concat (p.upTo c.2).located with hnil | ⟨front, last, hconcat⟩
    · rw [hnil] at hmem
      cases hmem
    · exact ⟨front, last, by rw [hconcat, List.concat_eq_append]⟩
  -- The component ends where the text was cut off, and none can end later.
  have hlength : (p.upTo c.2).text.toList.length ≤ c.2 := by
    rw [upTo, String.toList_ofList, List.length_take]
    exact Nat.min_le_left ..
  have hwithin : stop ≤ (p.upTo c.2).text.toList.length :=
    (hbound (last, stop) (hlast ▸ List.mem_append_right front List.mem_cons_self)).2
  have hend : c.2 ≤ stop := by
    rw [hlast] at hmem hpairs
    rcases List.mem_append.mp hmem with hfront | hlast
    · exact Nat.le_of_lt ((List.pairwise_append.mp hpairs).2.2 c hfront _ List.mem_cons_self)
    · exact Nat.le_of_eq (congrArg Prod.snd (List.mem_singleton.mp hlast))
  have hstop : stop = (p.upTo c.2).text.toList.length := by omega
  exact ⟨last, by rw [hlast, List.getLast?_concat, hstop]⟩

/-- The last component of a directory ends with its text. -/
theorem getLast?_located_directory (p : Path) :
    ∃ last, p.directory.located.getLast? = some (last, p.directory.text.toList.length) := by
  rcases p.directory_cases with ⟨hdot, -⟩ | ⟨c, hc, hcut⟩
  · rw [hdot]
    exact ⟨.current, by decide⟩
  · rw [hcut]
    exact getLast?_located_upTo (List.dropLast_subset _ hc)

/-- A name that is joined to the directory of a path has that directory for its parent. -/
theorem parent?_join_directory (p : Path) {n : String} (hslash : '/' ∉ n.toList)
    (hname : component? n.toList = some (.name n)) :
    (p.directory.join n).parent? = some p.directory := by
  obtain ⟨last, hlast⟩ := getLast?_located_directory p
  rw [parent?_join p.text_directory_ne hslash hname hlast]
  unfold upTo
  rw [List.take_length, String.ofList_toList]

end Sealing.FileSystem.Path
