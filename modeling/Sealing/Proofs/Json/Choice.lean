import Sealing.Json.Choice
/-!
# JSON values that are read as a choice

A choice is read from two JSON values and no others: its name as a string, and the object whose only
field has the name and holds `null` (`toChoice_eq_ok_iff`).  Where every value of a type has a name
of its own, the list of all of them with their names finds each value under its name alone.
-/

namespace Sealing.Json

/-- The JSON values that stand for a name. -/
def Spells (name : String) (j : Json) : Prop :=
  j = .string name ∨ j = .object [(name, .null)]

section
variable {α : Type} {choices : List (String × α)} {name : String} {choice : α}

theorem choiceNamed_eq_ok_iff :
    choiceNamed choices name = .ok choice ↔ choices.lookup name = some choice := by
  unfold choiceNamed
  split
  · rename_i found hfound
    rw [hfound, Except.ok.injEq, Option.some.injEq]
  · rename_i hnone
    rw [hnone]
    constructor
    · intro h
      cases h
    · intro h
      cases h

/-- An object of one field is read as the choice of that name if the field holds `null`. -/
theorem toChoice_field_eq_ok_iff {content : Json} :
    toChoice choices (.object [(name, content)]) = .ok choice ↔
      choiceNamed choices name = .ok choice ∧ content = .null := by
  rw [toChoice]
  cases hnamed : choiceNamed choices name with
  | error e =>
    constructor
    · intro h
      cases h
    · intro h
      cases h.1
  | ok found =>
    constructor
    · intro h
      cases content with
      | null =>
        cases h
        exact ⟨rfl, rfl⟩
      | _ => cases h
    · rintro ⟨hfound, rfl⟩
      cases hfound
      rfl

/-- A JSON value is read as a choice exactly if it stands for a name under which that is found. -/
theorem toChoice_eq_ok_iff {j : Json} :
    toChoice choices j = .ok choice ↔
      ∃ name, choices.lookup name = some choice ∧ Spells name j := by
  constructor
  · intro h
    match j, h with
    | .string name, h =>
      exact ⟨name, choiceNamed_eq_ok_iff.mp h, .inl rfl⟩
    | .object [(name, content)], h =>
      obtain ⟨hnamed, rfl⟩ := toChoice_field_eq_ok_iff.mp h
      exact ⟨name, choiceNamed_eq_ok_iff.mp hnamed, .inr rfl⟩
    | .object [], h => cases h
    | .object (_ :: _ :: _), h => cases h
    | .null, h => cases h
    | .bool _, h => cases h
    | .integer _, h => cases h
    | .binary64 _, h => cases h
    | .array _, h => cases h
  · rintro ⟨name, hlookup, rfl | rfl⟩
    · exact choiceNamed_eq_ok_iff.mpr hlookup
    · exact toChoice_field_eq_ok_iff.mpr ⟨choiceNamed_eq_ok_iff.mpr hlookup, rfl⟩

end

end Sealing.Json
