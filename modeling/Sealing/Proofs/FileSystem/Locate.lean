import Sealing.FileSystem.Resolve
import Sealing.Proofs.FileSystem.Keeps
/-!
# Walks by look-ups

`Tree.locate` follows names from location to location and asks the tree what stands at each of them.
It is the specification of `Tree.walk`, which carries the branches along; `walk_position` says that
the two agree.  What a walk does is then a matter of the entries that it meets: a tree that keeps
the directories and links of another one keeps the ways to its directories (`locate_of_keepsWays`).
-/

namespace Sealing.FileSystem

namespace Route

/-- The location where the route begins. -/
def base (r : Route) (working : Location) : Location :=
  if r.absolute then [] else working

theorem start_position (r : Route) (t : Tree) (working : Location) :
    r.start t (t.position working) = t.position (r.base working) := by
  unfold start base
  split <;> rfl

end Route

namespace Tree

/-- Follows names from a location, meeting at most `links` symbolic links. -/
def locate (t : Tree) (links : Nat) (here : Location) (names : List String) :
    Except Refusal Location :=
  match names with
  | [] => .ok here
  | n :: rest =>
    if t.find? here ≠ some .directory then .error .notDirectory
    else if n = "." then t.locate links here rest
    else if n = ".." then t.locate links here.tail rest
    else if nameMax < n.utf8ByteSize then .error .nameTooLong
    else
      match t.find? (n :: here) with
      | none => .error .noEntry
      | some (.link target) =>
        match links with
        | 0 => .error .tooManyLinks
        | links + 1 =>
          let route := Route.ofText target
          t.locate links (route.base here) (route.steps ++ rest)
      | some _ => t.locate links (n :: here) rest
termination_by (links, names.length)

theorem isDirectory_position (t : Tree) (l : Location) :
    (t.position l).isDirectory = true ↔ t.find? l = some .directory := by
  rw [← entry_position, Position.isDirectory]
  split
  · rename_i h
    simp [h]
  · rename_i h
    constructor
    · intro hf
      cases hf
    · intro hd
      exact absurd hd h

theorem isDirectory_position_eq_false (t : Tree) (l : Location) :
    (t.position l).isDirectory = false ↔ t.find? l ≠ some .directory := by
  rw [Ne, ← isDirectory_position, Bool.not_eq_true]

theorem down_position (t : Tree) (l : Location) (n : String) :
    (t.position l).down n = t.position (n :: l) := rfl

theorem walk_nil (t : Tree) (links : Nat) (here : Position) : t.walk links here [] = .ok here := by
  cases links with
  | zero => rfl
  | succ links => rfl

/-- One step of a walk. -/
theorem walk_cons (t : Tree) (links : Nat) (here : Position) (n : String) (rest : List String) :
    t.walk links here (n :: rest) =
      if !here.isDirectory then .error .notDirectory
      else if n = "." then t.walk links here rest
      else if n = ".." then t.walk links here.up rest
      else if nameMax < n.utf8ByteSize then .error .nameTooLong
      else
        match (here.down n).branch.entry with
        | none => .error .noEntry
        | some (.link target) =>
          match links with
          | 0 => .error .tooManyLinks
          | links + 1 =>
            let route := Route.ofText target
            t.walk links (route.start t here) (route.steps ++ rest)
        | some _ => t.walk links (here.down n) rest := by
  cases links with
  | zero => rfl
  | succ links => rfl

/-- A walk from a location leads to the position of the location that the look-ups lead to. -/
theorem walk_position (t : Tree) (links : Nat) (here : Location) (names : List String) :
    t.walk links (t.position here) names = t.position <$> t.locate links here names := by
  -- The walk stands where the look-ups stand, so each of its tests reads the tree there.
  fun_induction Tree.locate t links here names with
  | case1 links here =>
    rw [walk_nil]
    rfl
  | case2 links here n rest hdir =>
    rw [← isDirectory_position_eq_false] at hdir
    rw [walk_cons, hdir]
    rfl
  | case3 links here rest hdir ih =>
    rw [Decidable.not_not, ← isDirectory_position] at hdir
    rw [walk_cons, hdir, if_neg (by decide), if_pos rfl, ih]
  | case4 links here rest hdir hdot ih =>
    rw [Decidable.not_not, ← isDirectory_position] at hdir
    rw [walk_cons, hdir, if_neg (by decide), if_neg hdot, if_pos rfl, up_position, ih]
  | case5 links here n rest hdir hdot hdots hlong =>
    rw [Decidable.not_not, ← isDirectory_position] at hdir
    rw [walk_cons, hdir, if_neg (by decide), if_neg hdot, if_neg hdots, if_pos hlong]
    rfl
  | case6 links here n rest hdir hdot hdots hlong hnone =>
    rw [Decidable.not_not, ← isDirectory_position] at hdir
    rw [walk_cons, hdir, if_neg (by decide), if_neg hdot, if_neg hdots, if_neg hlong]
    simp only [down_position, entry_position, hnone]
    rfl
  | case7 here n rest hdir hdot hdots hlong target hlink =>
    rw [Decidable.not_not, ← isDirectory_position] at hdir
    rw [walk_cons, hdir, if_neg (by decide), if_neg hdot, if_neg hdots, if_neg hlong]
    simp only [down_position, entry_position, hlink]
    rfl
  | case8 here n rest hdir hdot hdots hlong target hlink links route ih =>
    rw [Decidable.not_not, ← isDirectory_position] at hdir
    rw [walk_cons, hdir, if_neg (by decide), if_neg hdot, if_neg hdots, if_neg hlong]
    simp only [down_position, entry_position, hlink, Route.start_position]
    exact ih
  | case9 links here n rest hdir hdot hdots hlong entry hnolink hentry ih =>
    rw [Decidable.not_not, ← isDirectory_position] at hdir
    rw [walk_cons, hdir, if_neg (by decide), if_neg hdot, if_neg hdots, if_neg hlong]
    simp only [down_position, entry_position, hentry]
    cases entry with
    | link target => exact absurd rfl (hnolink target)
    | directory => exact ih
    | file content mode => exact ih

/-! ## One step -/

section Step

variable {t : Tree} {links : Nat} {here : Location} {n target : String} {rest : List String}
  {e : Entry}

theorem locate_of_not_directory (h : t.find? here ≠ some .directory) :
    t.locate links here (n :: rest) = .error .notDirectory := by
  rw [locate, if_pos h]

theorem find?_of_locate_cons {d : Location} (h : t.locate links here (n :: rest) = .ok d) :
    t.find? here = some .directory := by
  by_cases hdir : t.find? here = some .directory
  · exact hdir
  · rw [locate_of_not_directory hdir] at h
    cases h

variable (hdir : t.find? here = some .directory)

include hdir

theorem locate_dot : t.locate links here ("." :: rest) = t.locate links here rest := by
  rw [locate, if_neg (not_not_intro hdir), if_pos rfl]

theorem locate_dots : t.locate links here (".." :: rest) = t.locate links here.tail rest := by
  rw [locate, if_neg (not_not_intro hdir), if_neg (by decide), if_pos rfl]

variable (hdot : n ≠ ".") (hdots : n ≠ "..")

include hdot hdots

theorem locate_of_long (hlong : nameMax < n.utf8ByteSize) :
    t.locate links here (n :: rest) = .error .nameTooLong := by
  rw [locate, if_neg (not_not_intro hdir), if_neg hdot, if_neg hdots, if_pos hlong]

variable (hlong : ¬nameMax < n.utf8ByteSize)

include hlong

theorem locate_of_none (hnone : t.find? (n :: here) = none) :
    t.locate links here (n :: rest) = .error .noEntry := by
  rw [locate, if_neg (not_not_intro hdir), if_neg hdot, if_neg hdots, if_neg hlong, hnone]

/-- One link more than may be met. -/
theorem locate_zero_of_link (hlink : t.find? (n :: here) = some (.link target)) :
    t.locate 0 here (n :: rest) = .error .tooManyLinks := by
  rw [locate, if_neg (not_not_intro hdir), if_neg hdot, if_neg hdots, if_neg hlong, hlink]

/-- What is left of the names is followed from where the link leads. -/
theorem locate_succ_of_link (hlink : t.find? (n :: here) = some (.link target)) :
    t.locate (links + 1) here (n :: rest) =
      t.locate links ((Route.ofText target).base here) ((Route.ofText target).steps ++ rest) := by
  rw [locate, if_neg (not_not_intro hdir), if_neg hdot, if_neg hdots, if_neg hlong, hlink]

theorem locate_of_entry (hentry : t.find? (n :: here) = some e) (hlink : ∀ target, e ≠ .link target) :
    t.locate links here (n :: rest) = t.locate links (n :: here) rest := by
  rw [locate, if_neg (not_not_intro hdir), if_neg hdot, if_neg hdots, if_neg hlong, hentry]
  cases e with
  | link target => exact absurd rfl (hlink target)
  | directory => rfl
  | file content mode => rfl

end Step

/-! ## Where a walk leads -/

/-- Only from a directory is there a way to a directory. -/
theorem find?_of_locate {t : Tree} {links : Nat} {here d : Location} {names : List String}
    (h : t.locate links here names = .ok d) (hd : t.find? d = some .directory) :
    t.find? here = some .directory := by
  cases names with
  | nil =>
    rw [locate, Except.ok.injEq] at h
    rw [h, hd]
  | cons n rest => exact find?_of_locate_cons h

/-- A longer walk begins with the shorter one: either that one is refused, and then so is the longer
one, or the longer one goes on where it ends, with the links that are left. -/
theorem locate_append (t : Tree) (links : Nat) (here : Location) (names : List String) :
    (∃ e, ∀ more, t.locate links here (names ++ more) = .error e) ∨
      ∃ left d, ∀ more, t.locate links here (names ++ more) = t.locate left d more := by
  -- The induction follows the shorter walk, which never looks at `more`: a refusal stays one, and
  -- every other step is the first of the longer walk too.
  fun_induction Tree.locate t links here names with
  | case1 links here => exact .inr ⟨links, here, fun more => rfl⟩
  | case2 links here n rest hdir => exact .inl ⟨_, fun more => locate_of_not_directory hdir⟩
  | case3 links here rest hdir ih =>
    have hstep (more : List String) :
        t.locate links here ("." :: rest ++ more) = t.locate links here (rest ++ more) :=
      locate_dot (Decidable.not_not.mp hdir)
    simpa only [hstep] using ih
  | case4 links here rest hdir hdot ih =>
    have hstep (more : List String) :
        t.locate links here (".." :: rest ++ more) = t.locate links here.tail (rest ++ more) :=
      locate_dots (Decidable.not_not.mp hdir)
    simpa only [hstep] using ih
  | case5 links here n rest hdir hdot hdots hlong =>
    exact .inl ⟨_, fun more => locate_of_long (Decidable.not_not.mp hdir) hdot hdots hlong⟩
  | case6 links here n rest hdir hdot hdots hlong hnone =>
    exact .inl ⟨_, fun more => locate_of_none (Decidable.not_not.mp hdir) hdot hdots hlong hnone⟩
  | case7 here n rest hdir hdot hdots hlong target hlink =>
    exact .inl
      ⟨_, fun more => locate_zero_of_link (Decidable.not_not.mp hdir) hdot hdots hlong hlink⟩
  | case8 here n rest hdir hdot hdots hlong target hlink links route ih =>
    have hstep (more : List String) : t.locate (links + 1) here (n :: rest ++ more) =
        t.locate links (route.base here) (route.steps ++ rest ++ more) := by
      rw [List.append_assoc]
      exact locate_succ_of_link (Decidable.not_not.mp hdir) hdot hdots hlong hlink
    simpa only [hstep] using ih
  | case9 links here n rest hdir hdot hdots hlong entry hnolink hentry ih =>
    have hstep (more : List String) :
        t.locate links here (n :: rest ++ more) = t.locate links (n :: here) (rest ++ more) :=
      locate_of_entry (Decidable.not_not.mp hdir) hdot hdots hlong hentry hnolink
    simpa only [hstep] using ih

/-- A walk to a directory meets only directories and links, so it leads to the same directory in
every tree that keeps these. -/
theorem locate_of_keepsWays {before after : Tree} (hkeep : KeepsWays before after) {links : Nat}
    {here d : Location} {names : List String} (h : before.locate links here names = .ok d)
    (hd : before.find? d = some .directory) : after.locate links here names = .ok d := by
  -- Each step asks for a directory where it stands and for what stands under the next name; the
  -- other tree has the same unless that is a file.
  fun_induction Tree.locate before links here names with
  | case1 links here =>
    rw [locate, h]
  | case2 links here n rest hdir => cases h
  | case3 links here rest hdir ih =>
    have hafter := hkeep here .directory (Decidable.not_not.mp hdir) rfl
    rw [locate_dot hafter]
    exact ih h
  | case4 links here rest hdir hdot ih =>
    have hafter := hkeep here .directory (Decidable.not_not.mp hdir) rfl
    rw [locate_dots hafter]
    exact ih h
  | case5 links here n rest hdir hdot hdots hlong => cases h
  | case6 links here n rest hdir hdot hdots hlong hnone => cases h
  | case7 here n rest hdir hdot hdots hlong target hlink => cases h
  | case8 here n rest hdir hdot hdots hlong target hlink links route ih =>
    have hafter := hkeep here .directory (Decidable.not_not.mp hdir) rfl
    rw [locate_succ_of_link hafter hdot hdots hlong (hkeep _ _ hlink rfl)]
    exact ih h
  | case9 links here n rest hdir hdot hdots hlong entry hnolink hentry ih =>
    have hafter := hkeep here .directory (Decidable.not_not.mp hdir) rfl
    -- A file under the next name would have been the end of the way.
    have hthere := find?_of_locate h hd
    rw [locate_of_entry hafter hdot hdots hlong (hkeep _ _ hthere rfl) nofun]
    exact ih h

/-- Where files took the place of directories and links, a walk leads to the same directory as
before or to none at all: it is at its end when it comes to a new file. -/
theorem locate_of_yields {before after : Tree} (hyield : Yields before after) {links : Nat}
    {here d d' : Location} {names : List String} (h : before.locate links here names = .ok d)
    (hd : before.find? d = some .directory) (h' : after.locate links here names = .ok d')
    (hd' : after.find? d' = some .directory) : d' = d := by
  -- Both walks take the same steps.  The later one meets what the earlier one met, or a file, behind
  -- which there is no way to a directory.
  have stuck {links : Nat} {l : Location} {rest : List String} {content : List UInt8} {mode : Nat}
      (hfile : after.find? l = some (.file content mode))
      (h' : after.locate links l rest = .ok d') : False := by
    have hdir := find?_of_locate h' hd'
    rw [hfile] at hdir
    cases hdir
  fun_induction Tree.locate before links here names with
  | case1 links here =>
    rw [locate, Except.ok.injEq] at h'
    rw [Except.ok.injEq] at h
    rw [← h, ← h']
  | case2 links here n rest hdir => cases h
  | case3 links here rest hdir ih =>
    have hafter := find?_of_locate h' hd'
    rw [locate_dot hafter] at h'
    exact ih h h'
  | case4 links here rest hdir hdot ih =>
    have hafter := find?_of_locate h' hd'
    rw [locate_dots hafter] at h'
    exact ih h h'
  | case5 links here n rest hdir hdot hdots hlong => cases h
  | case6 links here n rest hdir hdot hdots hlong hnone => cases h
  | case7 here n rest hdir hdot hdots hlong target hlink => cases h
  | case8 here n rest hdir hdot hdots hlong target hlink links route ih =>
    have hafter := find?_of_locate h' hd'
    rcases hyield _ _ hlink rfl with hsame | ⟨content, mode, hfile⟩
    · rw [locate_succ_of_link hafter hdot hdots hlong hsame] at h'
      exact ih h h'
    · rw [locate_of_entry hafter hdot hdots hlong hfile nofun] at h'
      exact (stuck hfile h').elim
  | case9 links here n rest hdir hdot hdots hlong entry hnolink hentry ih =>
    have hafter := find?_of_locate h' hd'
    have hthere := find?_of_locate h hd
    rcases hyield _ _ hthere rfl with hsame | ⟨content, mode, hfile⟩
    · rw [locate_of_entry hafter hdot hdots hlong hsame nofun] at h'
      exact ih h h'
    · rw [locate_of_entry hafter hdot hdots hlong hfile nofun] at h'
      exact (stuck hfile h').elim

/-- A walk that ends well goes on from there, with the links that are left. -/
theorem locate_append_of_ok {t : Tree} {links : Nat} {here d : Location} {names : List String}
    (h : t.locate links here names = .ok d) :
    ∃ left, ∀ more, t.locate links here (names ++ more) = t.locate left d more := by
  rcases t.locate_append links here names with ⟨e, herror⟩ | ⟨left, d', hgo⟩
  · have hnames := herror []
    rw [List.append_nil, h] at hnames
    cases hnames
  · have hnames := hgo []
    rw [List.append_nil, h, locate, Except.ok.injEq] at hnames
    subst hnames
    exact ⟨left, hgo⟩

/-- A slash behind the way to a directory changes nothing. -/
theorem locate_steps {t : Tree} {links : Nat} {here d : Location} {r : Route}
    (h : t.locate links here r.names = .ok d) (hd : t.find? d = some .directory) :
    t.locate links here r.steps = .ok d := by
  unfold Route.steps
  split
  · -- The slash asks for one more step, a dot, which stays in a directory.
    obtain ⟨left, hgo⟩ := locate_append_of_ok h
    rw [hgo, locate_dot hd, locate]
  · exact h

end Tree

end Sealing.FileSystem
