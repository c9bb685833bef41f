import Sealing.Json.Reader
import Sealing.Proofs.Text.Hexadecimal
/-!
# Integers and strings in JSON texts

The text of an integer ends where no digit follows, and that of a string at the first quote that is
not escaped.  So each tells what it is written for, and where the rest begins, also as the beginning
of a longer text (`integer_tells`, `stringText_append_inj`).
-/

namespace Sealing.Json

open Text

variable {s t : List Char}

/-! ## Integers -/

/-- No digit stands in front, so that a number before the text has ended. -/
def EndsNumber (s : List Char) : Prop := ∀ c ∈ s.head?, c.isDigit = false

theorem endsNumber_nil : EndsNumber [] := by
  intro c h
  cases h

theorem endsNumber_cons {c : Char} (h : c.isDigit = false) (s : List Char) :
    EndsNumber (c :: s) := by
  intro d hd
  cases hd
  exact h

/-- Where the texts of two values begin alike, the values are the same, and so is what follows. -/
def Tells {α : Type} (text : α → List Char) (x y : α) : Prop :=
  ∀ ⦃s t⦄, EndsNumber s → EndsNumber t → text x ++ s = text y ++ t → x = y ∧ s = t

theorem Tells.eq {α : Type} {text : α → List Char} {x y : α} (h : Tells text x y)
    (heq : text x = text y) : x = y :=
  (h endsNumber_nil endsNumber_nil (congrArg (· ++ []) heq)).1

theorem takeWhile_toDigits_append (n : Nat) (hs : EndsNumber s) :
    (Nat.toDigits 10 n ++ s).takeWhile Char.isDigit = Nat.toDigits 10 n := by
  rw [List.takeWhile_append_of_pos fun c => Nat.isDigit_of_mem_toDigits (by decide) (by decide)]
  cases s with
  | nil => exact List.append_nil _
  | cons c s =>
    have hc := hs c rfl
    rw [List.takeWhile_cons_of_neg (by rw [hc]; decide), List.append_nil]

theorem toDigits_tells (m n : Nat) : Tells (Nat.toDigits 10) m n := by
  intro s t hs ht h
  -- Both numbers are all the digits that stand in front.
  have hdigits : Nat.toDigits 10 m = Nat.toDigits 10 n := by
    rw [← takeWhile_toDigits_append m hs, h, takeWhile_toDigits_append n ht]
  rw [hdigits] at h
  refine ⟨?_, List.append_cancel_left h⟩
  rw [← Nat.ofDigitChars_ten_toDigits (n := m), hdigits, Nat.ofDigitChars_ten_toDigits]

theorem exists_toDigits_eq_cons (n : Nat) :
    ∃ c rest, Nat.toDigits 10 n = c :: rest ∧ c.isDigit = true := by
  cases h : Nat.toDigits 10 n with
  | nil => exact absurd h Nat.toDigits_ne_nil
  | cons c rest =>
    have hc : c ∈ Nat.toDigits 10 n := by
      rw [h]
      exact List.mem_cons_self
    exact ⟨c, rest, rfl, Nat.isDigit_of_mem_toDigits (by decide) (by decide) hc⟩

theorem toList_toString_ofNat (n : Nat) : (toString (Int.ofNat n)).toList = Nat.toDigits 10 n := by
  show (Nat.repr n).toList = _
  rw [Nat.repr_eq_ofList_toDigits, String.toList_ofList]

theorem toList_toString_negSucc (n : Nat) :
    (toString (Int.negSucc n)).toList = '-' :: Nat.toDigits 10 (n + 1) := by
  show ("-" ++ Nat.repr (n + 1)).toList = _
  rw [String.toList_append, Nat.repr_eq_ofList_toDigits, String.toList_ofList, String.toList_ofList,
    List.singleton_append]

theorem toDigits_append_ne (n : Nat) : Nat.toDigits 10 n ++ s ≠ '-' :: t := by
  intro h
  obtain ⟨c, rest, hn, hc⟩ := exists_toDigits_eq_cons n
  rw [hn, List.cons_append, List.cons.injEq] at h
  rw [h.1] at hc
  cases hc

theorem integer_tells (m n : Int) : Tells (fun n : Int => (toString n).toList) m n := by
  intro s t hs ht h
  simp only at h
  cases m with
  | ofNat m =>
    cases n with
    | ofNat n =>
      rw [toList_toString_ofNat, toList_toString_ofNat] at h
      obtain ⟨rfl, rfl⟩ := toDigits_tells m n hs ht h
      exact ⟨rfl, rfl⟩
    | negSucc n =>
      rw [toList_toString_ofNat, toList_toString_negSucc] at h
      exact absurd h (toDigits_append_ne m)
  | negSucc m =>
    cases n with
    | ofNat n =>
      rw [toList_toString_ofNat, toList_toString_negSucc] at h
      exact absurd h.symm (toDigits_append_ne n)
    | negSucc n =>
      rw [toList_toString_negSucc, toList_toString_negSucc, List.cons_append, List.cons_append,
        List.cons.injEq] at h
      obtain ⟨hmn, rfl⟩ := toDigits_tells _ _ hs ht h.2
      cases hmn
      exact ⟨rfl, rfl⟩

/-! ## Strings -/

/-- Takes the first character off a text, whatever way it is written. -/
def unescape? : List Char → Option (Char × List Char)
  | [] => none
  | c :: rest =>
    if c ≠ '\\' then some (c, rest) else
      match rest with
      | [] => none
      | 'u' :: _ :: _ :: high :: low :: rest => do
        let number := 16 * (← hexValue? high) + (← hexValue? low)
        return (Char.ofNat number, rest)
      | sign :: rest => (escaped? sign).map (·, rest)

/-- The characters that are written with a sign of their own behind the escape sign. -/
def signed : List Char := ['"', '\\', '\n', '\r', '\t', '\x08', '\x0c']

theorem escapeChar_of_not_mem_signed {c : Char} (h : c ∉ signed) :
    (escapeChar c).toList = if c.toNat < 32 then
      ['\\', 'u', '0', '0', Nat.digitChar (c.toNat / 16), Nat.digitChar (c.toNat % 16)] else [c] := by
  simp only [signed, List.mem_cons, List.not_mem_nil, or_false, not_or] at h
  obtain ⟨hquote, hescape, hline, hreturn, htab, hback, hfeed⟩ := h
  rw [escapeChar, if_neg hquote, if_neg hescape, if_neg hline, if_neg hreturn, if_neg htab,
    if_neg hback, if_neg hfeed]
  split
  · rw [String.toList_append, String.toList_ofList, String.toList_ofList]
    rfl
  · rw [Char.toString_eq_singleton, String.toList_singleton]

/-- Whatever way a character is written, it is taken off again. -/
theorem unescape?_escapeChar (c : Char) (rest : List Char) :
    unescape? ((escapeChar c).toList ++ rest) = some (c, rest) := by
  by_cases hsigned : c ∈ signed
  · simp only [signed, List.mem_cons, List.not_mem_nil, or_false] at hsigned
    rcases hsigned with rfl | rfl | rfl | rfl | rfl | rfl | rfl <;> rfl
  · rw [escapeChar_of_not_mem_signed hsigned]
    split
    -- The other control characters are written by their numbers, which two digits hold.
    · rw [digitChar_eq_hexDigit (by omega), digitChar_eq_hexDigit (by omega)]
      show (do
        let number := 16 * (← hexValue? (hexDigit (c.toNat / 16))) +
          (← hexValue? (hexDigit (c.toNat % 16)))
        return (Char.ofNat number, rest)) = _
      rw [hexValue?_hexDigit (by omega), hexValue?_hexDigit (by omega)]
      show some (Char.ofNat (16 * (c.toNat / 16) + c.toNat % 16), rest) = _
      rw [Nat.div_add_mod, Char.ofNat_toNat]
    · have hescape : c ≠ '\\' := by
        rintro rfl
        exact hsigned (by decide)
      exact if_pos hescape

theorem escapeChar_append_inj {c d : Char}
    (h : (escapeChar c).toList ++ s = (escapeChar d).toList ++ t) : c = d ∧ s = t := by
  have hfirst := unescape?_escapeChar c s
  rw [h, unescape?_escapeChar, Option.some.injEq, Prod.mk.injEq] at hfirst
  exact ⟨hfirst.1.symm, hfirst.2.symm⟩

theorem escapeChar_append_ne (c : Char) : (escapeChar c).toList ++ s ≠ '"' :: t := by
  intro h
  have hfirst := unescape?_escapeChar c s
  rw [h] at hfirst
  -- Only the quote itself could be read there, and it is escaped.
  cases hfirst
  cases h

/-- The characters of a string as they are written between its quotes. -/
def escaped (chars : List Char) : List Char :=
  chars.flatMap fun c => (escapeChar c).toList

theorem escaped_append_inj {cs ds : List Char}
    (h : escaped cs ++ '"' :: s = escaped ds ++ '"' :: t) : cs = ds ∧ s = t := by
  induction cs generalizing ds with
  | nil =>
    cases ds with
    | nil =>
      cases h
      exact ⟨rfl, rfl⟩
    | cons d ds =>
      rw [escaped, escaped, List.flatMap_cons, List.append_assoc] at h
      exact absurd h.symm (escapeChar_append_ne d)
  | cons c cs ih =>
    cases ds with
    | nil =>
      rw [escaped, List.flatMap_cons, List.append_assoc] at h
      exact absurd h (escapeChar_append_ne c)
    | cons d ds =>
      rw [escaped, escaped, List.flatMap_cons, List.flatMap_cons, List.append_assoc,
        List.append_assoc] at h
      obtain ⟨rfl, hrest⟩ := escapeChar_append_inj h
      obtain ⟨rfl, rfl⟩ := ih hrest
      exact ⟨rfl, rfl⟩

theorem toList_stringText (a : String) :
    (stringText a).toList = '"' :: (escaped a.toList ++ ['"']) := by
  rw [stringText, String.toList_append, String.toList_append, String.toList_join, List.flatMap_map]
  rfl

theorem stringText_append_inj {a b : String}
    (h : (stringText a).toList ++ s = (stringText b).toList ++ t) : a = b ∧ s = t := by
  rw [toList_stringText, toList_stringText, List.cons_append, List.cons_append, List.cons.injEq,
    List.append_assoc, List.append_assoc] at h
  obtain ⟨hchars, rfl⟩ := escaped_append_inj h.2
  exact ⟨String.toList_inj.mp hchars, rfl⟩

end Sealing.Json
