/-!
# Reading from the front

A reader takes something from the front of a text.  What it leaves is never longer than the text, so
a loop that takes at least one character by itself comes to an end.
-/

namespace Sealing.Text

/-- What was read at the front of a text, and what is left behind it. -/
structure Front (α : Type) (cs : List Char) where
  value : α
  rest : List Char
  length_rest_le : rest.length ≤ cs.length

namespace Front

variable {α β : Type} {c : Char} {cs : List Char}

/-- Nothing more is read. -/
def here (value : α) : Front α cs := ⟨value, cs, Nat.le_refl _⟩

/-- Makes something of what was read. -/
def map (f : α → β) (front : Front α cs) : Front β cs :=
  ⟨f front.value, front.rest, front.length_rest_le⟩

/-- The same with a character in front. -/
def behind (front : Front α cs) : Front α (c :: cs) :=
  ⟨front.value, front.rest, Nat.le_succ_of_le front.length_rest_le⟩

/-- The same with a longer text in front. -/
def within {ds : List Char} (front : Front α cs) (le : cs.length ≤ ds.length) : Front α ds :=
  ⟨front.value, front.rest, Nat.le_trans front.length_rest_le le⟩

end Front

end Sealing.Text
