import Sealing.Text.Blank
/-!
# Modes of patterns

Flags say how the characters of a pattern are taken.  Where blanks do not count, a reader passes
over them and over comments before it takes a character.
-/

namespace Sealing.Text.Pattern

/-- How the characters of a pattern are taken. -/
structure Mode where
  /-- A letter stands for both its cases. -/
  anyCase : Bool := false
  /-- The pattern speaks of characters, not of bytes. -/
  unicode : Bool := true
  /-- Blanks and comments between the parts do not count. -/
  spaced : Bool := false
deriving DecidableEq, Repr

namespace Mode

def set (m : Mode) (flag : Char) (on : Bool) : Mode :=
  match flag with
  | 'i' => { m with anyCase := on }
  | 'u' => { m with unicode := on }
  | 'x' => { m with spaced := on }
  | _ => m

/-- Drops blanks and comments, of which each goes to the end of its line. -/
def dropBlanks (comment : Bool) : List Char → List Char
  | [] => []
  | c :: cs =>
    if comment then dropBlanks (c ≠ '\n') cs
    else if isBlank c then dropBlanks false cs
    else if c = '#' then dropBlanks true cs
    else c :: cs

theorem length_dropBlanks_le (comment : Bool) (cs : List Char) :
    (dropBlanks comment cs).length ≤ cs.length := by
  induction cs generalizing comment with
  | nil => simp [dropBlanks]
  | cons c cs ih =>
    simp only [dropBlanks, List.length_cons]
    split
    · exact Nat.le_succ_of_le (ih _)
    split
    · exact Nat.le_succ_of_le (ih _)
    split
    · exact Nat.le_succ_of_le (ih _)
    · simp

/-- Drops what does not count. -/
def skip (m : Mode) (cs : List Char) : List Char :=
  if m.spaced then dropBlanks false cs else cs

theorem length_skip_le (m : Mode) (cs : List Char) : (m.skip cs).length ≤ cs.length := by
  unfold skip
  split
  · exact length_dropBlanks_le _ _
  · exact Nat.le_refl _

theorem length_lt_of_skip_eq_cons (m : Mode) {cs rest : List Char} {c : Char}
    (h : m.skip cs = c :: rest) : rest.length < cs.length := by
  have := m.length_skip_le cs
  rw [h, List.length_cons] at this
  omega

/-- The character that tells whether a hyphen makes a range.  Where blanks do not count they are
passed over, and so is one sign of a comment. -/
def peek (m : Mode) (cs : List Char) : Option Char :=
  if m.spaced then
    let visible :=
      match cs.dropWhile isBlank with
      | '#' :: rest => rest.dropWhile isBlank
      | rest => rest
    visible.head? <|> cs.head?
  else cs.head?

end Mode

end Sealing.Text.Pattern
