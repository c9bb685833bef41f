import Sealing.FileSystem.Resolve
import Sealing.Text.Hexadecimal
/-!
# Texts of paths

What the names of a path are once its text is put together from those of other paths, or cut off: a
name that is joined to a path comes after the names of that path, the directories made on the way to
a path are named as it begins, and the name that the kernel takes last is the one of the file.
-/

namespace Sealing.FileSystem

namespace Path

/-! ## Segments -/

theorem segments_ne_nil (cs : List Char) : segments cs ≠ [] := by
  cases cs with
  | nil => exact List.cons_ne_nil _ _
  | cons c cs =>
    rw [segments]
    split
    · exact List.cons_ne_nil _ _
    · split
      · exact List.cons_ne_nil _ _
      · exact List.cons_ne_nil _ _

theorem segments_cons_of_ne {c : Char} {cs s : List Char} {ss : List (List Char)} (hc : c ≠ '/')
    (h : segments cs = s :: ss) : segments (c :: cs) = (c :: s) :: ss := by
  rw [segments, if_neg hc, h]

theorem segments_append_slash (xs ys : List Char) :
    segments (xs ++ '/' :: ys) = segments xs ++ segments ys := by
  -- The segments before the slash are never empty, so that the first one can take a character.
  induction xs with
  | nil =>
    show segments ('/' :: ys) = [] :: segments ys
    rw [segments, if_pos rfl]
  | cons x xs ih =>
    rw [List.cons_append]
    by_cases hx : x = '/'
    · rw [hx, segments, if_pos rfl, segments, if_pos rfl, ih, List.cons_append]
    · obtain ⟨s, ss, hs⟩ := List.exists_cons_of_ne_nil (segments_ne_nil xs)
      rw [hs, List.cons_append] at ih
      rw [segments_cons_of_ne hx hs, segments_cons_of_ne hx ih, List.cons_append]

theorem slash_not_mem_of_mem_segments {cs s : List Char} (h : s ∈ segments cs) : '/' ∉ s := by
  induction cs generalizing s with
  | nil =>
    rw [segments, List.mem_singleton] at h
    rw [h]
    exact List.not_mem_nil
  | cons c cs ih =>
    by_cases hc : c = '/'
    · rw [hc, segments, if_pos rfl, List.mem_cons] at h
      rcases h with rfl | h
      · exact List.not_mem_nil
      · exact ih h
    · obtain ⟨s', ss, hs⟩ := List.exists_cons_of_ne_nil (segments_ne_nil cs)
      rw [segments_cons_of_ne hc hs, List.mem_cons] at h
      rcases h with rfl | h
      · rw [List.mem_cons, not_or]
        exact ⟨Ne.symm hc, ih (hs ▸ List.mem_cons_self)⟩
      · exact ih (hs ▸ List.mem_cons_of_mem _ h)

theorem segments_of_slash_not_mem {s : List Char} (h : '/' ∉ s) : segments s = [s] := by
  induction s with
  | nil => rfl
  | cons c s ih =>
    rw [List.mem_cons, not_or] at h
    exact segments_cons_of_ne (Ne.symm h.1) (ih h.2)

/-- The first segment is all there is, or a slash follows it and the other segments come behind
that. -/
theorem segments_eq_cons {cs s : List Char} {ss : List (List Char)} (h : segments cs = s :: ss) :
    ss = [] ∧ cs = s ∨ ∃ rest, cs = s ++ '/' :: rest ∧ segments rest = ss := by
  induction cs generalizing s with
  | nil =>
    rw [segments, List.cons.injEq] at h
    exact .inl ⟨h.2.symm, h.1⟩
  | cons c cs ih =>
    by_cases hc : c = '/'
    · rw [hc, segments, if_pos rfl, List.cons.injEq] at h
      obtain ⟨rfl, hss⟩ := h
      exact .inr ⟨cs, by rw [hc]; rfl, hss⟩
    · obtain ⟨s', ss', hs⟩ := List.exists_cons_of_ne_nil (segments_ne_nil cs)
      rw [segments_cons_of_ne hc hs, List.cons.injEq] at h
      obtain ⟨rfl, rfl⟩ := h
      rcases ih hs with ⟨hnil, rfl⟩ | ⟨rest, rfl, hrest⟩
      · exact .inl ⟨hnil, rfl⟩
      · exact .inr ⟨rest, rfl, hrest⟩

/-- A text whose first segment is a dot begins with it. -/
theorem take_one_of_head?_segments {cs : List Char} (h : (segments cs).head? = some ['.']) :
    cs.take 1 = ['.'] := by
  obtain ⟨ss, hss⟩ := List.head?_eq_some_iff.mp h
  rcases segments_eq_cons hss with ⟨-, hcs⟩ | ⟨rest, hcs, -⟩
  · rw [hcs]
    rfl
  · rw [hcs]
    rfl

/-- The last segment is empty only where a slash ends the text or there is none. -/
theorem getLast?_of_segments_eq {cs : List Char} {front : List (List Char)}
    (h : segments cs = front ++ [[]]) : cs = [] ∨ cs.getLast? = some '/' := by
  induction front generalizing cs with
  | nil =>
    rcases segments_eq_cons h with ⟨-, rfl⟩ | ⟨rest, -, hrest⟩
    · exact .inl rfl
    · exact absurd hrest (segments_ne_nil rest)
  | cons s front ih =>
    rcases segments_eq_cons h with ⟨hnil, -⟩ | ⟨rest, rfl, hrest⟩
    · exact absurd hnil (List.append_ne_nil_of_right_ne_nil _ (List.cons_ne_nil _ _))
    · right
      rcases ih hrest with rfl | hlast
      · rw [List.getLast?_concat]
      · rw [List.getLast?_append, List.getLast?_cons, hlast]
        rfl

/-! ## Names -/

theorem ne_nil_of_component? {s : List Char} {c : Component} (h : component? s = some c) :
    s ≠ [] := by
  rintro rfl
  cases h

/-- A segment that counts is two dots or a name. -/
theorem component?_cases {s : List Char} {c : Component} (h : component? s = some c) :
    c = .parent ∨ c = .name (String.ofList s) := by
  unfold component? at h
  split at h
  · cases h
  · cases h
  · cases h
    exact .inl rfl
  · cases h
    exact .inr rfl

theorem exists_of_mem_locatedFrom {start : Nat} {ss : List (List Char)} {c : Component × Nat}
    (h : c ∈ locatedFrom start ss) : ∃ s ∈ ss, component? s = some c.1 := by
  induction ss generalizing start with
  | nil => cases h
  | cons s ss ih =>
    have hlater (h : c ∈ locatedFrom (start + s.length + 1) ss) :
        ∃ s' ∈ s :: ss, component? s' = some c.1 := by
      obtain ⟨s', hs', hc⟩ := ih h
      exact ⟨s', List.mem_cons_of_mem s hs', hc⟩
    rw [locatedFrom] at h
    split at h
    · rename_i component hs
      rcases List.mem_cons.mp h with rfl | h
      · exact ⟨s, List.mem_cons_self, hs⟩
      · exact hlater h
    · exact hlater h

theorem mem_segments_of_mem_locatedFrom {start stop : Nat} {n : String} {ss : List (List Char)}
    (h : (Component.name n, stop) ∈ locatedFrom start ss) : n.toList ∈ ss := by
  obtain ⟨s, hs, hname⟩ := exists_of_mem_locatedFrom h
  rcases component?_cases hname with hparent | hname
  · cases hparent
  · rw [Component.name.inj hname, String.toList_ofList]
    exact hs

/-- No slash is in the name of a file. -/
theorem slash_not_mem_of_fileName? {p : Path} {n : String} (h : p.fileName? = some n) :
    '/' ∉ n.toList := by
  unfold fileName? at h
  split at h
  · rename_i m hlast
    cases h
    have hmem : .name n ∈ p.components := List.mem_of_getLast? hlast
    obtain ⟨⟨c, stop⟩, hmem, rfl⟩ := List.mem_map.mp hmem
    -- Neither the root nor a leading dot is a name.
    have hrest : (.name n, stop) ∈ locatedFrom 0 (segments p.text.toList) := by
      simp only [located] at hmem
      split at hmem
      · simpa using hmem
      · split at hmem
        · simpa using hmem
        · exact hmem
    exact slash_not_mem_of_mem_segments (mem_segments_of_mem_locatedFrom hrest)
  · cases h

/-- The root and the dot in front of a path are no segments. -/
theorem ne_front_of_mem_locatedFrom {start : Nat} {ss : List (List Char)} {c : Component × Nat}
    (h : c ∈ locatedFrom start ss) : c.1 ≠ .root ∧ c.1 ≠ .current := by
  obtain ⟨s, -, hs⟩ := exists_of_mem_locatedFrom h
  rcases component?_cases hs with hc | hc
  · rw [hc]
    exact ⟨Component.noConfusion, Component.noConfusion⟩
  · rw [hc]
    exact ⟨Component.noConfusion, Component.noConfusion⟩

theorem ne_root_of_mem_locatedFrom {start : Nat} {ss : List (List Char)} {c : Component × Nat}
    (h : c ∈ locatedFrom start ss) : c.1 ≠ .root :=
  (ne_front_of_mem_locatedFrom h).1

theorem mem_locatedFrom_of_mem_tail {p : Path} {c : Component × Nat} (h : c ∈ p.located.tail) :
    c ∈ locatedFrom 0 (segments p.text.toList) := by
  simp only [located] at h
  split at h
  · exact h
  · split at h
    · exact h
    · exact List.mem_of_mem_tail h

/-- Only the first component can be the root. -/
theorem ne_root_of_mem_tail_located {p : Path} {c : Component × Nat} (h : c ∈ p.located.tail) :
    c.1 ≠ .root :=
  ne_root_of_mem_locatedFrom (mem_locatedFrom_of_mem_tail h)

/-- A path that ends with the root or the dot in front consists of that. -/
theorem components_of_getLast? {p : Path} {c : Component} (hc : c = .root ∨ c = .current)
    (h : p.components.getLast? = some c) : p.components = [c] := by
  unfold components at h ⊢
  cases hlocated : p.located with
  | nil =>
    rw [hlocated] at h
    cases h
  | cons first rest =>
    rw [hlocated] at h
    cases rest with
    | nil => exact congrArg (fun c => [c]) (Option.some.inj h)
    | cons second rest =>
      rw [List.map_cons, List.map_cons, List.getLast?_cons_cons, ← List.map_cons] at h
      obtain ⟨last, hlast, rfl⟩ := List.mem_map.mp (List.mem_of_getLast? h)
      have htail : last ∈ p.located.tail := by
        rw [hlocated]
        exact hlast
      exact absurd hc (not_or.mpr (ne_front_of_mem_locatedFrom (mem_locatedFrom_of_mem_tail htail)))

/-- A path names no file if nothing is left of it but a dot or the root, or if two dots end it. -/
theorem fileName?_eq_none_iff {p : Path} :
    p.fileName? = none ↔ p.components = [] ∨ p.components = [.current] ∨ p.components = [.root] ∨
      p.components.getLast? = some .parent := by
  unfold fileName?
  constructor
  · intro h
    cases hlast : p.components.getLast? with
    | none => exact .inl (List.getLast?_eq_none_iff.mp hlast)
    | some c =>
      cases c with
      | root => exact .inr (.inr (.inl (components_of_getLast? (.inl rfl) hlast)))
      | current => exact .inr (.inl (components_of_getLast? (.inr rfl) hlast))
      | parent => exact .inr (.inr (.inr rfl))
      | name n =>
        rw [hlast] at h
        cases h
  · rintro (h | h | h | h)
    · rw [h]
      rfl
    · rw [h]
      rfl
    · rw [h]
      rfl
    · rw [h]

/-- The directories to make for a path begin with the path itself, unless there are none. -/
theorem ancestors_cases (p : Path) : p.ancestors = [] ∨ ∃ outer, p.ancestors = p :: outer := by
  unfold ancestors
  split
  · exact .inl rfl
  · rename_i last outer hreverse
    by_cases hroot : last.1 = .root
    · -- The root can only be the first component, so here it is the only one.
      have hlocated : p.located = outer.reverse ++ [last] := by
        rw [← List.reverse_reverse p.located, hreverse, List.reverse_cons]
      have houter : outer = [] := by
        cases hfirst : outer.reverse with
        | nil => exact List.reverse_eq_nil_iff.mp hfirst
        | cons first rest =>
          have hlast : last ∈ p.located.tail := by
            rw [hlocated, hfirst, List.cons_append, List.tail_cons]
            exact List.mem_append_right rest List.mem_cons_self
          exact absurd hroot (ne_root_of_mem_tail_located hlast)
      rw [if_pos hroot, houter]
      exact .inl rfl
    · rw [if_neg hroot]
      exact .inr ⟨_, rfl⟩

/-! ## Cuts and ends -/

/-- The text up to the end of a component has the segments up to the one of the component, and no
slash ends it. -/
theorem segments_take_of_mem_locatedFrom {start : Nat} {c : Component} {stop : Nat}
    {cs : List Char} (h : (c, stop) ∈ locatedFrom start (segments cs)) :
    ∃ length rest, stop = start + length ∧ 0 < length ∧
      segments cs = segments (cs.take length) ++ rest ∧
      (cs.take length).getLast? ≠ some '/' := by
  generalize hss : segments cs = ss at h ⊢
  induction ss generalizing cs start with
  | nil => cases h
  | cons s ss ih =>
    have hslash : '/' ∉ s := slash_not_mem_of_mem_segments (hss ▸ List.mem_cons_self)
    -- The component is that of the first segment, or it is one further on.
    have hcases : (component? s = some c ∧ stop = start + s.length) ∨
        (c, stop) ∈ locatedFrom (start + s.length + 1) ss := by
      rw [locatedFrom] at h
      split at h
      · rename_i component hs
        rcases List.mem_cons.mp h with heq | h
        · cases heq
          exact .inl ⟨hs, rfl⟩
        · exact .inr h
      · exact .inr h
    rcases hcases with ⟨hs, rfl⟩ | h
    · have hlength : 0 < s.length := List.length_pos_iff.mpr (ne_nil_of_component? hs)
      have htake : cs.take s.length = s := by
        rcases segments_eq_cons hss with ⟨-, rfl⟩ | ⟨rest, rfl, -⟩
        · exact List.take_length
        · exact List.take_left
      refine ⟨s.length, ss, rfl, hlength, ?_, ?_⟩
      · rw [htake, segments_of_slash_not_mem hslash]
        rfl
      · rw [htake]
        intro hlast
        exact hslash (List.mem_of_getLast? hlast)
    · rcases segments_eq_cons hss with ⟨rfl, -⟩ | ⟨more, rfl, hmore⟩
      · cases h
      obtain ⟨length, rest, rfl, hlength, hrest, hlast⟩ := ih hmore h
      have htake : (s ++ '/' :: more).take (s.length + 1 + length) =
          s ++ '/' :: more.take length := by
        rw [Nat.add_assoc, List.take_append, Nat.add_comm 1 length, Nat.add_sub_cancel_left,
          List.take_succ_cons, List.take_of_length_le (Nat.le_add_right ..)]
      refine ⟨s.length + 1 + length, rest, by omega, by omega, ?_, ?_⟩
      · rw [htake, segments_append_slash, segments_of_slash_not_mem hslash, hrest]
        rfl
      · -- Something stands behind the slash, for there is a component.
        have hne : more ≠ [] := by
          rintro rfl
          rw [← hmore] at h
          cases h
        obtain ⟨d, ds, rfl⟩ := List.exists_cons_of_ne_nil hne
        obtain ⟨length, rfl⟩ := Nat.exists_eq_succ_of_ne_zero (Nat.ne_of_gt hlength)
        rw [List.take_succ_cons, List.getLast?_cons] at hlast
        rw [htake, List.take_succ_cons, List.getLast?_append, List.getLast?_cons_cons,
          List.getLast?_cons, Option.some_or]
        exact hlast

/-- Each component but the root ends where the first segments of the text do, and no slash stands in
front of that end. -/
theorem segments_take_of_mem_located {p : Path} {c : Component} {stop : Nat}
    (h : (c, stop) ∈ p.located) (hroot : c ≠ .root) :
    0 < stop ∧ (∃ rest, segments p.text.toList = segments (p.text.toList.take stop) ++ rest) ∧
      (p.text.toList.take stop).getLast? ≠ some '/' := by
  have hfrom (hmem : (c, stop) ∈ locatedFrom 0 (segments p.text.toList)) :
      0 < stop ∧ (∃ rest, segments p.text.toList = segments (p.text.toList.take stop) ++ rest) ∧
        (p.text.toList.take stop).getLast? ≠ some '/' := by
    obtain ⟨length, rest, rfl, hlength, hrest, hlast⟩ := segments_take_of_mem_locatedFrom hmem
    rw [Nat.zero_add]
    exact ⟨hlength, ⟨rest, hrest⟩, hlast⟩
  simp only [located] at h
  split at h
  · rcases List.mem_cons.mp h with heq | h
    · cases heq
      exact absurd rfl hroot
    · exact hfrom h
  · split at h
    · rename_i hdot
      rcases List.mem_cons.mp h with heq | h
      · -- The dot that the path begins with is the first segment.
        cases heq
        obtain ⟨ss, hss⟩ := List.head?_eq_some_iff.mp hdot
        rw [take_one_of_head?_segments hdot, hss]
        exact ⟨Nat.one_pos, ⟨ss, rfl⟩, by decide⟩
      · exact hfrom h
    · exact hfrom h

/-- The last segment that counts is the last component. -/
theorem getLast?_locatedFrom {s : List Char} {c : Component} (hs : component? s = some c)
    (start : Nat) (ss : List (List Char)) :
    ∃ stop, (locatedFrom start (ss ++ [s])).getLast? = some (c, stop) := by
  induction ss generalizing start with
  | nil =>
    rw [List.nil_append, locatedFrom]
    simp only [hs]
    exact ⟨_, rfl⟩
  | cons s' ss ih =>
    obtain ⟨stop, hstop⟩ := ih (start + s'.length + 1)
    refine ⟨stop, ?_⟩
    rw [List.cons_append, locatedFrom]
    split
    · rw [List.getLast?_cons, hstop]
      rfl
    · exact hstop

theorem text_directory_ne (p : Path) : p.directory.text ≠ "" := by
  unfold directory
  split
  · split
    · decide
    · assumption
  · decide

end Path

/-! ## Routes -/

namespace Route

theorem names_join {p : Path} {n : String} (hp : p.text ≠ "") (hn : n ≠ "")
    (hslash : '/' ∉ n.toList) :
    (ofText (p.join n).text).names = (ofText p.text).names ++ [n] := by
  have hkept : [n.toList].filter (· ≠ []) = [n.toList] := by simpa using hn
  have hname : [n.toList].map String.ofList = [n] := by simp
  unfold Path.join
  by_cases hend : p.text.toList.getLast? = some '/'
  · -- The slash that ends the path stands before the name already.
    obtain ⟨xs, hxs⟩ := List.getLast?_eq_some_iff.mp hend
    rw [if_pos (Or.inr hend)]
    simp only [ofText, String.toList_append, hxs, List.append_assoc, List.singleton_append,
      Path.segments_append_slash, Path.segments_of_slash_not_mem hslash, Path.segments]
    simp only [List.filter_append, hkept, List.map_append, hname]
    simp
  · have hno : ¬(p.text = "" ∨ p.text.toList.getLast? = some '/') := by
      rw [not_or]
      exact ⟨hp, hend⟩
    have hone : "/".toList = ['/'] := rfl
    rw [if_neg hno]
    simp only [ofText, String.toList_append, hone, List.append_assoc, List.singleton_append,
      Path.segments_append_slash, Path.segments_of_slash_not_mem hslash]
    simp only [List.filter_append, hkept, List.map_append, hname]

/-- No slash ends a path that a name was joined to. -/
theorem slash_join (p : Path) {n : String} (hn : n ≠ "") (hslash : '/' ∉ n.toList) :
    (ofText (p.join n).text).slash = false := by
  obtain ⟨front, hfront⟩ : ∃ front, (p.join n).text = front ++ n := by
    unfold Path.join
    split
    · exact ⟨p.text, rfl⟩
    · exact ⟨p.text ++ "/", rfl⟩
  apply decide_eq_false
  rcases List.eq_nil_or_concat n.toList with hnil | ⟨cs, c, hcs⟩
  · exact absurd (String.toList_eq_nil_iff.mp hnil) hn
  · rw [List.concat_eq_append] at hcs
    rw [hfront, String.toList_append, hcs, ← List.append_assoc, List.getLast?_concat]
    intro hlast
    apply hslash
    rw [hcs, Option.some.inj hlast]
    exact List.mem_append_right cs List.mem_cons_self

/-- A path with a name joined to it begins with the path. -/
theorem exists_text_join (p : Path) (n : String) : ∃ more, (p.join n).text = p.text ++ more := by
  unfold Path.join
  split
  · exact ⟨n, rfl⟩
  · exact ⟨"/" ++ n, String.append_assoc⟩

theorem absolute_join {p : Path} (hp : p.text ≠ "") (n : String) :
    (ofText (p.join n).text).absolute = (ofText p.text).absolute := by
  obtain ⟨more, hmore⟩ := exists_text_join p n
  obtain ⟨c, cs, hcs⟩ := List.exists_cons_of_ne_nil (mt String.toList_eq_nil_iff.mp hp)
  simp only [ofText, hmore, String.toList_append, hcs, List.cons_append, List.head?_cons]

theorem ofPath_eq_ok_iff {p : Path} {route : Route} :
    ofPath p = .ok route ↔
      '\x00' ∉ p.text.toList ∧ p.text ≠ "" ∧ p.text.utf8ByteSize < pathMax ∧
        route = ofText p.text := by
  unfold ofPath
  by_cases hnul : '\x00' ∈ p.text.toList
  · simp [hnul]
  · by_cases hempty : p.text = ""
    · simp [hempty]
    · by_cases hlong : pathMax ≤ p.text.utf8ByteSize
      · simp [hnul, hempty, hlong, Nat.not_lt_of_le hlong]
      · simp [hnul, hempty, hlong, Nat.lt_of_not_le hlong, eq_comm]

/-- A path that is cut off behind a component is named as the whole path begins, and no slash ends
it. -/
theorem names_upTo {p : Path} {c : Component} {stop : Nat} (hmem : (c, stop) ∈ p.located)
    (hroot : c ≠ .root) :
    (ofText (p.upTo stop).text).absolute = (ofText p.text).absolute ∧
      (∃ more, (ofText p.text).names = (ofText (p.upTo stop).text).names ++ more) ∧
      (ofText (p.upTo stop).text).slash = false := by
  obtain ⟨hstop, ⟨rest, hrest⟩, hend⟩ := Path.segments_take_of_mem_located hmem hroot
  have htext : (p.upTo stop).text.toList = p.text.toList.take stop := String.toList_ofList
  refine ⟨?_, ⟨(rest.filter (· ≠ [])).map String.ofList, ?_⟩, ?_⟩
  · -- Something stands before the cut, so that the first character stays.
    simp only [ofText, htext, List.head?_take, if_neg (Nat.ne_of_gt hstop)]
  · simp only [ofText, htext]
    rw [hrest, List.filter_append, List.map_append]
  · apply decide_eq_false
    rw [htext]
    exact hend

/-- A directory that is made on the way is named as the path begins. -/
theorem names_of_mem_ancestors {p q : Path} (h : q ∈ p.ancestors) :
    (ofText q.text).absolute = (ofText p.text).absolute ∧
      ∃ more, (ofText p.text).names = (ofText q.text).names ++ more := by
  unfold Path.ancestors at h
  split at h
  · cases h
  · rename_i last outer hreverse
    rcases List.mem_append.mp h with h | h
    · split at h
      · cases h
      · rw [List.mem_singleton.mp h]
        exact ⟨rfl, [], (List.append_nil _).symm⟩
    · obtain ⟨⟨c, stop⟩, hc, rfl⟩ := List.mem_map.mp h
      obtain ⟨hmem, hroot⟩ := List.mem_filter.mp hc
      have hlocated : (c, stop) ∈ p.located := by
        rw [← List.mem_reverse, hreverse]
        exact List.mem_cons_of_mem _ hmem
      obtain ⟨habsolute, hnames, -⟩ := names_upTo hlocated (of_decide_eq_true hroot)
      exact ⟨habsolute, hnames⟩

/-- The name that the kernel takes last, unless it is a dot or two or a slash follows it, is the name
of the file. -/
theorem fileName?_of_names {p : Path} {front : List String} {last : String}
    (hnames : (ofText p.text).names = front ++ [last]) (hslash : (ofText p.text).slash = false)
    (hdot : last ≠ ".") (hdots : last ≠ "..") : p.fileName? = some last := by
  obtain ⟨ss, s, hsegments⟩ : ∃ ss s, Path.segments p.text.toList = ss ++ [s] := by
    rcases List.eq_nil_or_concat (Path.segments p.text.toList) with hnil | ⟨ss, s, hss⟩
    · exact absurd hnil (Path.segments_ne_nil _)
    · exact ⟨ss, s, by rw [hss, List.concat_eq_append]⟩
  have hne : s ≠ [] := by
    rintro rfl
    rcases Path.getLast?_of_segments_eq hsegments with hempty | hend
    · simp only [ofText, hempty] at hnames
      simp [Path.segments] at hnames
    · simp [ofText, hend] at hslash
  have hlast : last = String.ofList s := by
    simp only [ofText, hsegments, List.filter_append] at hnames
    rw [List.filter_cons_of_pos (by simpa using hne), List.filter_nil, List.map_append] at hnames
    exact (List.cons.inj (List.append_inj' hnames rfl).2).1.symm
  have hcomponent : Path.component? s = some (.name last) := by
    unfold Path.component?
    split
    · exact absurd rfl hne
    · exact absurd hlast hdot
    · exact absurd hlast hdots
    · rw [hlast]
  obtain ⟨stop, hstop⟩ := Path.getLast?_locatedFrom hcomponent 0 ss
  have hlocated : p.located.getLast? = some (.name last, stop) := by
    simp only [Path.located, hsegments]
    split
    · rw [List.getLast?_cons, hstop]
      rfl
    · split
      · rw [List.getLast?_cons, hstop]
        rfl
      · exact hstop
  unfold Path.fileName? Path.components
  rw [List.getLast?_map, hlocated]
  rfl

end Route

end Sealing.FileSystem
