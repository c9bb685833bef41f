/-!
# Texts as bytes

A text is written as the bytes of its characters, one behind the other, and the bytes of a text are
those that are read as it.  The characters below 128 are written as themselves, and their bytes stand
for nothing else: so the bytes of a text show where its lines end, before anyone has checked that
they are those of a text.
-/

namespace Sealing.Text

theorem toList_eq_data_toList (bytes : ByteArray) : bytes.toList = bytes.data.toList := by
  -- Bytes are gathered from the front, so that the gathered ones stand in reverse.
  have loop (i : Nat) (front : List UInt8) :
      ByteArray.toList.loop bytes i front = front.reverse ++ bytes.data.toList.drop i := by
    fun_induction ByteArray.toList.loop bytes i front with
    | case1 i front h ih =>
      have hi : i < bytes.data.toList.length := h
      have hget : bytes.get! i = bytes.data.toList[i] := getElem!_pos bytes.data i h
      rw [ih, List.drop_eq_getElem_cons hi, hget, List.reverse_cons, List.append_assoc]
      rfl
    | case2 i front h =>
      have hle : bytes.data.toList.length ≤ i := Nat.le_of_not_lt h
      rw [List.drop_eq_nil_of_le hle, List.append_nil]
  exact loop 0 []

theorem toList_toUTF8 (s : String) : s.toUTF8.toList = s.toList.flatMap String.utf8EncodeChar := by
  rw [toList_eq_data_toList, String.toUTF8_eq_toByteArray, ← String.utf8Encode_toList,
    List.utf8Encode, List.toList_data_toByteArray]

/-- The bytes that are read as a text are those that it is written as. -/
theorem fromUTF8?_eq_some_iff {bytes : List UInt8} {s : String} :
    String.fromUTF8? ⟨bytes.toArray⟩ = some s ↔ s.toUTF8.toList = bytes := by
  have hbytes : s.toUTF8.toList = bytes ↔ s.toByteArray = ⟨bytes.toArray⟩ := by
    rw [toList_eq_data_toList, String.toUTF8_eq_toByteArray]
    constructor
    · intro h
      rw [← h]
    · intro h
      rw [h]
  rw [hbytes, String.fromUTF8?]
  constructor
  · intro h
    split at h
    · cases h
      rfl
    · cases h
  · intro h
    rw [dif_pos (h ▸ s.isValidUTF8)]
    exact congrArg some (String.toByteArray_inj.mp h.symm)

/-- Bytes are those of one text only. -/
theorem toList_toUTF8_inj {s t : String} : s.toUTF8.toList = t.toUTF8.toList ↔ s = t := by
  rw [toList_eq_data_toList, toList_eq_data_toList, Array.toList_inj, ← ByteArray.ext_iff,
    String.toUTF8_eq_toByteArray, String.toUTF8_eq_toByteArray, String.toByteArray_inj]

/-! ## Characters below 128 -/

theorem eq_ofNat_iff {b : UInt8} {x : Nat} : b = UInt8.ofNat x ↔ x % 256 = b.toNat := by
  rw [← UInt8.toNat_inj, UInt8.toNat_ofNat', eq_comm]

/-- A byte below 128 stands for the character of its number and for no other. -/
theorem mem_utf8EncodeChar_iff {b : UInt8} {c : Char} (hb : b.toNat < 128) :
    b ∈ String.utf8EncodeChar c ↔ c.val.toNat = b.toNat := by
  unfold String.utf8EncodeChar
  extract_lets v
  change _ ↔ v = b.toNat
  -- From 128 on a character is written in two to four bytes, none of which is below 128.
  split
  · rw [List.mem_singleton, eq_ofNat_iff]
    omega
  · split
    · simp only [List.mem_cons, List.not_mem_nil, or_false, eq_ofNat_iff]
      omega
    · split
      · simp only [List.mem_cons, List.not_mem_nil, or_false, eq_ofNat_iff]
        omega
      · simp only [List.mem_cons, List.not_mem_nil, or_false, eq_ofNat_iff]
        omega

theorem lineFeed_mem_utf8EncodeChar_iff {c : Char} : 10 ∈ String.utf8EncodeChar c ↔ c = '\n' := by
  rw [mem_utf8EncodeChar_iff (by decide), ← Char.val_inj, ← UInt32.toNat_inj]
  rfl

theorem return_mem_utf8EncodeChar_iff {c : Char} : 13 ∈ String.utf8EncodeChar c ↔ c = '\r' := by
  rw [mem_utf8EncodeChar_iff (by decide), ← Char.val_inj, ← UInt32.toNat_inj]
  rfl

/-! ## Line ends in a text -/

theorem lineFeed_mem_toUTF8_iff {s : String} : 10 ∈ s.toUTF8.toList ↔ '\n' ∈ s.toList := by
  rw [toList_toUTF8, List.mem_flatMap]
  constructor
  · rintro ⟨c, hc, hbyte⟩
    rwa [← lineFeed_mem_utf8EncodeChar_iff.mp hbyte]
  · intro h
    exact ⟨'\n', h, lineFeed_mem_utf8EncodeChar_iff.mpr rfl⟩

/-- A text is written as carriage returns only if it is made of them. -/
theorem forall_toUTF8_eq_return_iff {s : String} :
    (∀ b ∈ s.toUTF8.toList, b = 13) ↔ ∀ c ∈ s.toList, c = '\r' := by
  simp only [toList_toUTF8, List.mem_flatMap]
  constructor
  · intro h c hc
    obtain ⟨b, hb⟩ := List.exists_mem_of_ne_nil _ (String.utf8EncodeChar_ne_nil (c := c))
    rw [h b ⟨c, hc, hb⟩] at hb
    exact return_mem_utf8EncodeChar_iff.mp hb
  · rintro h b ⟨c, hc, hb⟩
    rw [h c hc] at hb
    exact List.mem_singleton.mp hb

theorem toUTF8_ofList_append (cs ds : List Char) :
    (String.ofList (cs ++ ds)).toUTF8.toList =
      (String.ofList cs).toUTF8.toList ++ (String.ofList ds).toUTF8.toList := by
  simp only [toList_toUTF8, String.toList_ofList, List.flatMap_append]

/-- A character of one byte, repeated, is written as that byte, repeated. -/
theorem toUTF8_replicate {c : Char} {b : UInt8} (h : String.utf8EncodeChar c = [b]) (count : Nat) :
    (String.ofList (List.replicate count c)).toUTF8.toList = List.replicate count b := by
  rw [toList_toUTF8, String.toList_ofList]
  induction count with
  | zero => rfl
  | succ count ih =>
    rw [List.replicate_succ, List.replicate_succ, List.flatMap_cons, ih, h]
    rfl

theorem toUTF8_lineFeed : (String.ofList ['\n']).toUTF8.toList = [10] := by
  rw [toList_toUTF8, String.toList_ofList]
  rfl

/-- A text whose last byte is a line feed ends in that character. -/
theorem exists_concat_of_toUTF8 {s : String} {front : List UInt8}
    (h : s.toUTF8.toList = front ++ [10]) :
    ∃ cs, s.toList = cs ++ ['\n'] ∧ (String.ofList cs).toUTF8.toList = front := by
  rcases List.eq_nil_or_concat s.toList with hnil | ⟨cs, c, hs⟩
  · rw [toList_toUTF8, hnil] at h
    exact absurd h.symm (List.append_ne_nil_of_right_ne_nil _ (List.cons_ne_nil _ _))
  · have hbytes : cs.flatMap String.utf8EncodeChar ++ String.utf8EncodeChar c = front ++ [10] := by
      rw [← h, toList_toUTF8, hs, List.concat_eq_append, List.flatMap_append,
        List.flatMap_singleton]
    -- The last byte is one of the last character.
    have hlast : 10 ∈ String.utf8EncodeChar c := by
      rcases List.eq_nil_or_concat (String.utf8EncodeChar c) with hnil | ⟨bs, b, hbs⟩
      · exact absurd hnil String.utf8EncodeChar_ne_nil
      · rw [hbs, List.concat_eq_append, ← List.append_assoc] at hbytes
        rw [hbs, List.concat_eq_append, (List.append_inj' hbytes rfl).2]
        exact List.mem_append_right bs (List.mem_singleton.mpr rfl)
    have hc : c = '\n' := lineFeed_mem_utf8EncodeChar_iff.mp hlast
    subst hc
    refine ⟨cs, by rw [hs, List.concat_eq_append], ?_⟩
    rw [toList_toUTF8, String.toList_ofList]
    exact List.append_cancel_right hbytes

end Sealing.Text
