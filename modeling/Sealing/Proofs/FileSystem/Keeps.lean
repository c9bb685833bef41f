import Sealing.FileSystem.Tree
/-!
# What one tree keeps of another

`Tree.Keeps` compares two trees entry by entry, for the entries of one kind.  Files are what a user
loses; directories and links are the ways to everything else.
-/

namespace Sealing.FileSystem

/-- Whether an entry is a regular file. -/
def Entry.isFile : Entry → Bool
  | .file .. => true
  | _ => false

namespace Tree

/-- Each entry of a kind in a tree stands in the other tree as it was. -/
def Keeps (kind : Entry → Prop) (before after : Tree) : Prop :=
  ∀ l e, before.find? l = some e → kind e → after.find? l = some e

/-- Every regular file is still there, with its content and its permissions. -/
def KeepsFiles (before after : Tree) : Prop :=
  Keeps (fun e => e.isFile = true) before after

/-- Every directory and every link is still there. -/
def KeepsWays (before after : Tree) : Prop :=
  Keeps (fun e => e.isFile = false) before after

/-- Nothing is gone or changed. -/
def KeepsAll (before after : Tree) : Prop :=
  Keeps (fun _ => True) before after

/-- A regular file stands at the location. -/
def HasFile (t : Tree) (l : Location) : Prop :=
  ∃ content mode, t.find? l = some (.file content mode)

/-- Every directory and every link is still there, or a file has taken its place. -/
def Yields (before after : Tree) : Prop :=
  ∀ l e, before.find? l = some e → e.isFile = false → after.find? l = some e ∨ after.HasFile l

variable {kind kind' : Entry → Prop} {t t₁ t₂ : Tree}

theorem Keeps.refl (kind : Entry → Prop) (t : Tree) : Keeps kind t t :=
  fun _ _ hf _ => hf

theorem Keeps.trans (h₁ : Keeps kind t t₁) (h₂ : Keeps kind t₁ t₂) : Keeps kind t t₂ :=
  fun l e hf he => h₂ l e (h₁ l e hf he) he

theorem Keeps.mono (h : Keeps kind t t₁) (hk : ∀ e, kind' e → kind e) : Keeps kind' t t₁ :=
  fun l e hf he => h l e hf (hk e he)

theorem KeepsAll.keepsFiles (h : KeepsAll t t₁) : KeepsFiles t t₁ :=
  Keeps.mono h fun _ _ => trivial

theorem KeepsAll.keepsWays (h : KeepsAll t t₁) : KeepsWays t t₁ :=
  Keeps.mono h fun _ _ => trivial

/-- A change at one location loses nothing if no entry of the kind stood there. -/
theorem Keeps.of_find?_eq (l : Location) (hother : ∀ k, k ≠ l → t₁.find? k = t.find? k)
    (hl : ∀ d, t.find? l = some d → ¬kind d) : Keeps kind t t₁ := by
  intro k d hf hd
  have hne : k ≠ l := by
    intro hkl
    subst hkl
    exact hl d hf hd
  rw [hother k hne, hf]

/-! ## One entry set -/

/-- A tree has an entry at a location and is otherwise the one before. -/
structure Sets (before : Tree) (l : Location) (e : Entry) (after : Tree) : Prop where
  self : after.find? l = some e
  other : ∀ k, k ≠ l → after.find? k = before.find? k

theorem Sets.insert (t : Tree) {l : Location} (hl : l ≠ []) (e : Entry) :
    Sets t l e (t.insert l e) where
  self := find?_insert_self t e hl
  other := fun _ hk => find?_insert_of_ne t e hk

theorem Sets.trans {l : Location} {e e' : Entry} (h₁ : Sets t l e t₁) (h₂ : Sets t₁ l e' t₂) :
    Sets t l e' t₂ where
  self := h₂.self
  other := fun k hk => (h₂.other k hk).trans (h₁.other k hk)

theorem Sets.keeps {l : Location} {e : Entry} (h : Sets t l e t₁)
    (hl : ∀ d, t.find? l = some d → ¬kind d) : Keeps kind t t₁ :=
  Keeps.of_find?_eq l h.other hl

/-- Nothing of another kind is new. -/
theorem Sets.keeps_back {l : Location} {e : Entry} (h : Sets t l e t₁) (he : ¬kind e) :
    Keeps kind t₁ t := by
  apply Keeps.of_find?_eq l (fun k hk => (h.other k hk).symm)
  intro d hd
  rw [h.self] at hd
  cases hd
  exact he

theorem Sets.keepsAll {l : Location} {e : Entry} (h : Sets t l e t₁) (hl : t.find? l = none) :
    KeepsAll t t₁ := by
  apply h.keeps
  intro d hd
  rw [hl] at hd
  cases hd

/-- A file takes no place but its own. -/
theorem Sets.yields {l : Location} {content : List UInt8} {mode : Nat}
    (h : Sets t l (.file content mode) t₁) : Yields t t₁ := by
  intro k d hd _
  by_cases hkl : k = l
  · exact .inr ⟨content, mode, hkl ▸ h.self⟩
  · exact .inl ((h.other k hkl).trans hd)

end Tree

end Sealing.FileSystem
