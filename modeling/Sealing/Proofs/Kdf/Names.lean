import Sealing.Kdf.SecurityLevel
import Sealing.Proofs.Json.Choice
/-!
# Names of algorithms and levels

Both types are closed lists of named values.  A text is read as a value if it is the name once its
letters A to Z are made small, a JSON value if it stands for the name as it is; nothing else is read
(`algorithm_and_level_names`).  Each fact is shown of any list of all values with names of their
own, and applied to the two.
-/

namespace Sealing

namespace Text

/-- The letters A to Z made small, 32 places further on; every other character stays as it is. -/
def smallLetter (c : Char) : Char :=
  if 'A' ≤ c ∧ c ≤ 'Z' then Char.ofNat (c.toNat + 32) else c

theorem toLower_eq_smallLetter (c : Char) : c.toLower = smallLetter c := by
  unfold Char.toLower smallLetter
  by_cases hletter : 'A' ≤ c ∧ c ≤ 'Z'
  · have hval : c.val ≥ 'A'.val ∧ c.val ≤ 'Z'.val := hletter
    have hle : c.toNat ≤ 90 := hletter.2
    have hvalid : (c.toNat + 32).isValidChar := Or.inl (by omega)
    have hsum : (c.val + 32).toNat = c.toNat + 32 := by
      rw [UInt32.toNat_add]
      exact Nat.mod_eq_of_lt (by show c.toNat + 32 < 4294967296; omega)
    rw [dif_pos hval, if_pos hletter]
    apply Char.toNat_inj.mp
    unfold Char.ofNat
    rw [dif_pos hvalid]
    exact hsum
  · have hval : ¬(c.val ≥ 'A'.val ∧ c.val ≤ 'Z'.val) := hletter
    rw [dif_neg hval, if_neg hletter]

theorem map_toLower (s : String) : s.map Char.toLower = s.map smallLetter :=
  congrArg s.map (funext toLower_eq_smallLetter)

end Text

namespace Kdf

open Json (Spells)
open Text (smallLetter)

/-! ## Lists of all values -/

section
variable {α : Type} {all : List α} {name : α → String} (hall : ∀ v, v ∈ all)
  (hinj : ∀ v ∈ all, ∀ w ∈ all, name v = name w → v = w)

include hall hinj in
/-- Where no two values share a name, a value is the first of its name. -/
theorem find?_name_eq_some_iff {s : String} {v : α} :
    all.find? (name · = s) = some v ↔ name v = s := by
  constructor
  · intro h
    simpa using List.find?_some h
  · rintro rfl
    cases hfind : all.find? (name · = name v) with
    | none =>
      have hno := List.find?_eq_none.mp hfind v (hall v)
      exact absurd (decide_eq_true rfl) hno
    | some w =>
      have hw : name w = name v := by simpa using List.find?_some hfind
      rw [hinj w (hall w) v (hall v) hw]

/-- Looking up a name among all values is finding the first value of that name. -/
theorem lookup_name (all : List α) (name : α → String) (s : String) :
    (all.map fun v => (name v, v)).lookup s = all.find? (name · = s) := by
  induction all with
  | nil => rfl
  | cons v all ih =>
    rw [List.map_cons, List.lookup_cons, List.find?_cons]
    by_cases hs : name v = s
    · have heq : (s == name v) = true := beq_iff_eq.mpr hs.symm
      rw [heq, decide_eq_true hs]
    · have hne : (s == name v) = false := beq_eq_false_iff_ne.mpr (Ne.symm hs)
      rw [hne, decide_eq_false hs, ih]

include hall hinj in
/-- A JSON value is read as a value exactly if it stands for the name of that. -/
theorem toChoice_name_eq_ok_iff {j : Json} {v : α} :
    Json.toChoice (all.map fun v => (name v, v)) j = .ok v ↔ Spells (name v) j := by
  rw [Json.toChoice_eq_ok_iff]
  constructor
  · rintro ⟨s, hlookup, hspells⟩
    rw [lookup_name, find?_name_eq_some_iff hall hinj] at hlookup
    rw [hlookup]
    exact hspells
  · intro hspells
    refine ⟨name v, ?_, hspells⟩
    rw [lookup_name, find?_name_eq_some_iff hall hinj]

end

/-- The values of a type are told by their names.  A text is read as a value if it is the name once
its letters A to Z are made small; a JSON value is read as a value if it stands for the name as it
is, and then the name is also read as a text.  What is written is read back. -/
structure ToldByName {α : Type} (name : α → String) (ofName : String → Except Error α)
    (toJson : α → Json) (ofJson : Json → Except Json.ChoiceError α) : Prop where
  ofName_iff : ∀ s v, ofName s = .ok v ↔ s.map smallLetter = name v
  ofJson_iff : ∀ j v, ofJson j = .ok v ↔ j = .string (name v) ∨ j = .object [(name v, .null)]
  ofName_of_ofJson : ∀ j v, ofJson j = .ok v →
    ∃ s, (j = .string s ∨ j = .object [(s, .null)]) ∧ ofName s = .ok v
  ofJson_toJson : ∀ v, ofJson (toJson v) = .ok v
  ofName_name : ∀ v, ofName (name v) = .ok v

/-- It is enough that all values are found by names of their own, in which no letter is from A
to Z. -/
theorem ToldByName.of_find? {α : Type} {all : List α} {name : α → String}
    {ofName : String → Except Error α} {toJson : α → Json}
    (hall : ∀ v, v ∈ all) (hinj : ∀ v ∈ all, ∀ w ∈ all, name v = name w → v = w)
    (hsmall : ∀ v ∈ all, (name v).toList.map smallLetter = (name v).toList)
    (hwrite : ∀ v, toJson v = .string (name v))
    (hfind : ∀ s v, ofName s = .ok v ↔ all.find? (name · = s.map Char.toLower) = some v) :
    ToldByName name ofName toJson (Json.toChoice (all.map fun v => (name v, v))) := by
  have htext (s : String) (v : α) : ofName s = .ok v ↔ s.map smallLetter = name v := by
    rw [hfind, find?_name_eq_some_iff hall hinj, Text.map_toLower, eq_comm]
  have hjson (j : Json) (v : α) :
      Json.toChoice (all.map fun v => (name v, v)) j = .ok v ↔ Spells (name v) j :=
    toChoice_name_eq_ok_iff hall hinj
  have hname (v : α) : ofName (name v) = .ok v := by
    rw [htext, ← String.toList_inj, String.toList_map, hsmall v (hall v)]
  constructor
  case ofName_iff => exact htext
  case ofJson_iff => exact hjson
  case ofName_of_ofJson =>
    intro j v h
    exact ⟨name v, (hjson j v).mp h, hname v⟩
  case ofJson_toJson =>
    intro v
    rw [hjson, hwrite]
    exact .inl rfl
  case ofName_name => exact hname

/-! ## The two types -/

namespace Algorithm

theorem mem_all (v : Algorithm) : v ∈ all := by
  cases v <;> decide

theorem ofName_eq_ok_iff {s : String} {v : Algorithm} :
    ofName s = .ok v ↔ all.find? (·.name = s.map Char.toLower) = some v := by
  unfold ofName
  cases all.find? (·.name = s.map Char.toLower) with
  | some found => rw [Except.ok.injEq, Option.some.injEq]
  | none => simp only [reduceCtorEq]

theorem toldByName : ToldByName name ofName toJson ofJson :=
  .of_find? mem_all (by decide) (by decide) (fun _ => rfl) fun _ _ => ofName_eq_ok_iff

end Algorithm

namespace SecurityLevel

theorem mem_all (v : SecurityLevel) : v ∈ all := by
  cases v <;> decide

theorem ofName_eq_ok_iff {s : String} {v : SecurityLevel} :
    ofName s = .ok v ↔ all.find? (·.name = s.map Char.toLower) = some v := by
  unfold ofName
  cases all.find? (·.name = s.map Char.toLower) with
  | some found => rw [Except.ok.injEq, Option.some.injEq]
  | none => simp only [reduceCtorEq]

theorem toldByName : ToldByName name ofName toJson ofJson :=
  .of_find? mem_all (by decide) (by decide) (fun _ => rfl) fun _ _ => ofName_eq_ok_iff

end SecurityLevel

/-- Algorithms and levels are told by their names, in texts as in JSON. -/
theorem algorithm_and_level_names :
    ToldByName Algorithm.name Algorithm.ofName Algorithm.toJson Algorithm.ofJson ∧
      ToldByName SecurityLevel.name SecurityLevel.ofName SecurityLevel.toJson
        SecurityLevel.ofJson :=
  ⟨Algorithm.toldByName, SecurityLevel.toldByName⟩

end Kdf

end Sealing
