import Sealing.Envelope
import Sealing.Proofs.Nonce
import Sealing.Proofs.Outcome
/-!
# A file cut into its fields

A file that is long enough is a magic, two bytes, two numbers, a nonce and a ciphertext, one behind
the other (`Fields.exists_bytes`).  Each part of the header is read where it stands, so that
`decode` on such a file is a decision on its fields alone (`decode_bytes`), and a shorter file is
refused (`length_of_decode`).
-/

namespace Sealing

namespace Envelope

/-! ## Fields -/

/-- The bytes of a file, cut where its fields begin. -/
structure Fields where
  magic : FixedBytes 4
  version : UInt8
  id : UInt8
  ops : FixedBytes 8
  mem : FixedBytes 8
  nonce : Nonce
  ciphertext : List UInt8
  room : ciphertextMin ≤ ciphertext.length

namespace Fields

/-- The fields one behind the other. -/
def bytes (f : Fields) : List UInt8 :=
  f.magic.toList ++ f.version :: f.id ::
    (f.ops.toList ++ (f.mem.toList ++ (f.nonce.toList ++ f.ciphertext)))

theorem length_bytes (f : Fields) : f.bytes.length = headerLength + f.ciphertext.length := by
  simp only [bytes, List.length_append, List.length_cons, FixedBytes.length_toList,
    Nonce.length_toList, headerLength]
  omega

theorem le_length_bytes (f : Fields) : headerLength + ciphertextMin ≤ f.bytes.length := by
  rw [length_bytes]
  exact Nat.add_le_add_left f.room _

/-- A file that is long enough is made of fields. -/
theorem exists_bytes {data : List UInt8} (h : headerLength + ciphertextMin ≤ data.length) :
    ∃ f : Fields, f.bytes = data := by
  have hlen : 62 ≤ data.length := h
  have cut (start length : Nat) (hr : start + length ≤ 62) :
      ((data.drop start).take length).length = length := by
    rw [List.length_take, List.length_drop]
    omega
  have next (start length : Nat) :
      (data.drop start).take length ++ data.drop (start + length) = data.drop start := by
    rw [← List.drop_drop, List.take_append_drop]
  -- Each field begins where the one before it ends, so that the cuts add up to the whole.
  refine ⟨{ magic := ⟨(data.drop 0).take 4, cut 0 4 (by decide)⟩
            version := data[4]
            id := data[5]
            ops := ⟨(data.drop 6).take 8, cut 6 8 (by decide)⟩
            mem := ⟨(data.drop 14).take 8, cut 14 8 (by decide)⟩
            nonce := ⟨⟨(data.drop 22).take 24, cut 22 24 (by decide)⟩⟩
            ciphertext := data.drop 46
            room := ?_ }, ?_⟩
  · rw [List.length_drop]
    unfold ciphertextMin
    omega
  · simp only [bytes, Nonce.toList]
    rw [next 22 24, next 14 8, next 6 8, List.getElem_cons_drop, List.getElem_cons_drop,
      next 0 4, List.drop_zero]

end Fields

/-! ## Reading fields -/

theorem field_append (before wanted after : List UInt8) :
    field (before ++ (wanted ++ after)) before.length wanted.length = .ok wanted := by
  unfold field
  rw [if_pos (by simp only [List.length_append]; omega), List.drop_left, List.take_left]

theorem numberField_append (before after : List UInt8) (number : FixedBytes 8) :
    numberField (before ++ (number.toList ++ after)) before.length =
      .ok (LittleEndian.decode number.toList) := by
  have h := field_append before number.toList after
  rw [number.length_toList] at h
  unfold numberField
  rw [h]
  rfl

theorem byteField_append (before after : List UInt8) (b : UInt8) :
    byteField (before ++ b :: after) before.length = .ok b := by
  have h : field (before ++ b :: after) before.length 1 = .ok [b] := field_append before [b] after
  unfold byteField
  rw [h]
  rfl

namespace Fields

variable (f : Fields)

theorem take_bytes : f.bytes.take Envelope.magic.length = f.magic.toList := by
  rw [show Envelope.magic.length = f.magic.toList.length by rw [f.magic.length_toList]; rfl]
  exact List.take_left

theorem byteField_version : byteField f.bytes Envelope.magic.length = .ok f.version := by
  have h := byteField_append f.magic.toList
    (f.id :: (f.ops.toList ++ (f.mem.toList ++ (f.nonce.toList ++ f.ciphertext)))) f.version
  rwa [f.magic.length_toList] at h

theorem byteField_id : byteField f.bytes 5 = .ok f.id := by
  have h := byteField_append (f.magic.toList ++ [f.version])
    (f.ops.toList ++ (f.mem.toList ++ (f.nonce.toList ++ f.ciphertext))) f.id
  simpa [bytes] using h

theorem numberField_ops : numberField f.bytes 6 = .ok (LittleEndian.decode f.ops.toList) := by
  have h := numberField_append (f.magic.toList ++ [f.version, f.id])
    (f.mem.toList ++ (f.nonce.toList ++ f.ciphertext)) f.ops
  simpa [bytes] using h

theorem numberField_mem : numberField f.bytes 14 = .ok (LittleEndian.decode f.mem.toList) := by
  have h := numberField_append (f.magic.toList ++ f.version :: f.id :: f.ops.toList)
    (f.nonce.toList ++ f.ciphertext) f.mem
  simpa [bytes] using h

theorem field_nonce : field f.bytes 22 Nonce.length = .ok f.nonce.toList := by
  have h := field_append (f.magic.toList ++ f.version :: f.id :: (f.ops.toList ++ f.mem.toList))
    f.nonce.toList f.ciphertext
  simpa [bytes, Nonce.length] using h

theorem drop_bytes : f.bytes.drop headerLength = f.ciphertext := by
  have h : (f.magic.toList ++ f.version :: f.id ::
      (f.ops.toList ++ (f.mem.toList ++ f.nonce.toList)) ++ f.ciphertext).drop 46 =
      f.ciphertext := List.drop_left' (by simp)
  simpa [bytes, headerLength] using h

end Fields

/-! ## Decoding fields -/

/-- Past magic and version, what is decoded depends on the fields that follow. -/
theorem decodeCurrent_bytes (f : Fields) :
    decodeCurrent f.bytes = (fun kdf => new kdf f.nonce f.ciphertext) <$>
      decodeKdf f.id (LittleEndian.decode f.ops.toList) (LittleEndian.decode f.mem.toList) := by
  have hlen : ¬f.bytes.length < headerLength + ciphertextMin := Nat.not_lt.mpr f.le_length_bytes
  simp only [decodeCurrent, if_neg hlen, f.byteField_id, f.numberField_ops, f.numberField_mem,
    f.field_nonce, f.drop_bytes, Nonce.ofList_toList, Except.ok_bind]
  rfl

/-- What a file is decoded to depends on its fields: the magic is looked at first, then the version,
then the rest. -/
theorem decode_bytes (f : Fields) :
    decode f.bytes =
      if f.magic.toList ≠ magic then .error (.malformed "invalid magic")
      else if f.version = currentVersion then
        (fun kdf => new kdf f.nonce f.ciphertext) <$>
          decodeKdf f.id (LittleEndian.decode f.ops.toList) (LittleEndian.decode f.mem.toList)
      else .error (.malformed s!"unsupported version {f.version}") := by
  have hlen : ¬f.bytes.length < magic.length + 1 := by
    have h := f.le_length_bytes
    simp only [headerLength, ciphertextMin, magic, List.length_cons, List.length_nil] at h ⊢
    omega
  simp only [decode, if_neg hlen, f.take_bytes, f.byteField_version, decodeCurrent_bytes,
    Except.ok_bind]
  rfl

/-- What is decoded is long enough. -/
theorem length_of_decode {data : List UInt8} {e : Envelope} (h : decode data = .ok e) :
    headerLength + ciphertextMin ≤ data.length := by
  -- The shorter check for magic and version comes first; the whole header is asked for after it.
  have hcurrent : decodeCurrent data = .ok e := by
    simp only [decode, Except.throw_eq, Except.error_bind] at h
    split at h
    · cases h
    split at h
    · cases h
    obtain ⟨version, -, h⟩ := Except.bind_eq_ok_iff.mp h
    split at h
    · exact h
    · cases h
  simp only [decodeCurrent, Except.throw_eq, Except.error_bind] at hcurrent
  split at hcurrent
  · cases hcurrent
  · exact Nat.not_lt.mp ‹_›

end Envelope

end Sealing
