/-!
# Branches of a directory tree

A branch is what stands at a place of a tree, with the branches below it by their names.  Every list
of names leads from a branch to one below it; where nothing was ever put, that one is empty.  So
`Branch.along` and `Branch.set` are the look-up and the update of a map from lists of names to
entries, and take a step for each name.
-/

namespace Sealing.FileSystem

/-- What stands at a place. -/
inductive Entry where
  | directory
  | file (content : List UInt8) (mode : Nat)
  | link (target : String)
deriving DecidableEq, Repr

/-- What stands at a place and below it. -/
structure Branch where
  entry : Option Entry := none
  children : List (String × Branch) := []

namespace Branch

def child (b : Branch) (name : String) : Branch :=
  (b.children.lookup name).getD {}

/-- The same with another branch of a name. -/
def withChild (b : Branch) (name : String) (child : Branch) : Branch :=
  { b with children := (name, child) :: b.children.filter fun c => c.1 ≠ name }

/-- The branch that names lead to, the outermost name first. -/
def along (b : Branch) : List String → Branch
  | [] => b
  | name :: names => (b.child name).along names

/-- The same with another entry, or with none, where names lead to. -/
def set (entry : Option Entry) (b : Branch) : List String → Branch
  | [] => { b with entry }
  | name :: names => b.withChild name ((b.child name).set entry names)

/-! ## Looking up -/

private theorem lookup_filter_name_ne (cs : List (String × Branch)) {m n : String} (h : m ≠ n) :
    (cs.filter fun c => c.1 ≠ n).lookup m = cs.lookup m := by
  induction cs with
  | nil => rfl
  | cons c cs ih =>
    by_cases hc : c.1 = n
    · have hm : (m == c.1) = false := by simpa [hc] using h
      rw [List.filter_cons_of_neg (by simpa using hc), ih, List.lookup_cons, hm]
    · rw [List.filter_cons_of_pos (by simpa using hc), List.lookup_cons, List.lookup_cons, ih]

@[simp] theorem child_withChild_self (b c : Branch) (name : String) :
    (b.withChild name c).child name = c := by
  simp [child, withChild]

theorem child_withChild_of_ne (b c : Branch) {m n : String} (h : m ≠ n) :
    (b.withChild n c).child m = b.child m := by
  have hm : (m == n) = false := by simpa using h
  simp only [child, withChild]
  rw [List.lookup_cons, hm, lookup_filter_name_ne _ h]

theorem along_append (b : Branch) (names more : List String) :
    b.along (names ++ more) = (b.along names).along more := by
  induction names generalizing b with
  | nil => rfl
  | cons name names ih => exact ih _

theorem entry_along_set_self (b : Branch) (entry : Option Entry) (names : List String) :
    ((b.set entry names).along names).entry = entry := by
  induction names generalizing b with
  | nil => rfl
  | cons name names ih =>
    rw [set, along, child_withChild_self]
    exact ih _

theorem entry_along_set_of_ne (b : Branch) (entry : Option Entry) {ks names : List String}
    (h : ks ≠ names) : ((b.set entry names).along ks).entry = (b.along ks).entry := by
  induction names generalizing b ks with
  | nil =>
    cases ks with
    | nil => exact absurd rfl h
    | cons k ks => rfl
  | cons name names ih =>
    cases ks with
    | nil => rfl
    | cons k ks =>
      by_cases hk : k = name
      · subst hk
        rw [set, along, along, child_withChild_self]
        exact ih _ fun hks => h (by rw [hks])
      · rw [set, along, along, child_withChild_of_ne _ _ hk]

/-! ## Listing -/

mutual

/-- All entries of a branch, each with the names that lead to it. -/
def entries : Branch → List (List String × Entry)
  | ⟨entry, children⟩ => entry.toList.map (([], ·)) ++ childEntries children

def childEntries : List (String × Branch) → List (List String × Entry)
  | [] => []
  | (name, b) :: rest => b.entries.map (fun e => (name :: e.1, e.2)) ++ childEntries rest

end

end Branch

end Sealing.FileSystem
