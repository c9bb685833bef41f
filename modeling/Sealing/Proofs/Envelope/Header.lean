import Sealing.Proofs.Envelope
/-!
# What a header decides

The header is what stands before the nonce.  Whether a file is accepted, with which way to its key,
and how it is refused otherwise, is decided by its length and its header (`kdf_decode_congr`); the
headers that are accepted are the ones that are written (`exists_decode_iff`).
-/

namespace Sealing.Envelope

open Kdf

namespace Fields

variable (f : Fields)

theorem length_header :
    (f.magic.toList ++ [f.version] ++ (f.id :: (f.ops.toList ++ f.mem.toList))).length = 22 := by
  simp

theorem take_header :
    f.bytes.take 22 = f.magic.toList ++ [f.version] ++ (f.id :: (f.ops.toList ++ f.mem.toList)) := by
  rw [f.bytes_eq, List.append_assoc _ f.nonce.toList, ← f.length_header, List.take_left]

theorem drop_header : f.bytes.drop 22 = f.nonce.toList ++ f.ciphertext := by
  rw [f.bytes_eq, List.append_assoc _ f.nonce.toList, ← f.length_header, List.drop_left]

theorem take_front : f.bytes.take 5 = f.magic.toList ++ [f.version] := by
  have hlen : (f.magic.toList ++ [f.version]).length = 5 := by simp
  rw [f.bytes_eq, List.append_assoc _ f.nonce.toList, List.append_assoc, ← hlen, List.take_left]

theorem getElem?_id : f.bytes[5]? = some f.id := by
  rw [bytes, List.getElem?_append_right (by simp), f.magic.length_toList]
  rfl

theorem decode_ops :
    LittleEndian.decode ((f.bytes.drop 6).take 8) = LittleEndian.decode f.ops.toList := by
  have h := f.numberField_ops
  have hlen : 6 + 8 ≤ f.bytes.length := Nat.le_trans (by decide) f.le_length_bytes
  rw [numberField, field, if_pos hlen] at h
  exact Except.ok.inj h

theorem decode_mem :
    LittleEndian.decode ((f.bytes.drop 14).take 8) = LittleEndian.decode f.mem.toList := by
  have h := f.numberField_mem
  have hlen : 14 + 8 ≤ f.bytes.length := Nat.le_trans (by decide) f.le_length_bytes
  rw [numberField, field, if_pos hlen] at h
  exact Except.ok.inj h

end Fields

/-! ## Accepted headers -/

/-- A file is accepted with a way to its key exactly if it is long enough and its header is the one
that is written for that way. -/
theorem exists_decode_iff {data : List UInt8} {kdf : Option Config} :
    (∃ e, decode data = .ok e ∧ e.kdf = kdf) ↔
      headerLength + ciphertextMin ≤ data.length ∧ (∀ c ∈ kdf, c.Valid) ∧
        data.take 22 = magic ++ [currentVersion] ++ encodeKdf kdf := by
  by_cases hlen : headerLength + ciphertextMin ≤ data.length
  · obtain ⟨f, rfl⟩ := Fields.exists_bytes hlen
    simp only [decode_bytes_eq_ok_iff, f.take_header]
    constructor
    · rintro ⟨e, ⟨hmagic, hversion, ⟨hvalid, hkdf⟩, -⟩, rfl⟩
      exact ⟨hlen, hvalid, by rw [hmagic, hversion, hkdf]⟩
    · rintro ⟨-, hvalid, hheader⟩
      have hmagic : f.magic.toList.length = magic.length := f.magic.length_toList
      obtain ⟨hfront, hkdf⟩ := List.append_inj hheader (by simp [hmagic])
      obtain ⟨hfirst, hversion⟩ := List.append_inj hfront hmagic
      rw [List.cons.injEq] at hversion
      exact ⟨new kdf f.nonce f.ciphertext, ⟨hfirst, hversion.1, ⟨hvalid, hkdf.symm⟩, rfl⟩, rfl⟩
  · -- Too short for a header with a nonce and a tag behind it.
    constructor
    · rintro ⟨e, he, -⟩
      exact absurd (length_of_decode he) hlen
    · rintro ⟨hlen', -⟩
      exact absurd hlen' hlen

/-- A header says that the key comes from a password at some cost: it begins with magic and version,
and the number of the algorithm and the two limits stand behind them. -/
theorem take_header_eq_some_iff {data : List UInt8} (hlen : headerLength + ciphertextMin ≤ data.length)
    {c : Config} (hvalid : c.Valid) :
    data.take 22 = magic ++ [currentVersion] ++ encodeKdf (some c) ↔
      data.take 5 = magic ++ [currentVersion] ∧ data[5]? = some c.algorithm.id ∧
        c.opsLimit = LittleEndian.decode ((data.drop 6).take 8) ∧
        c.memLimit = LittleEndian.decode ((data.drop 14).take 8) := by
  obtain ⟨f, rfl⟩ := Fields.exists_bytes hlen
  rw [f.take_header, f.take_front, f.getElem?_id, f.decode_ops, f.decode_mem,
    ← encode_limits_eq_iff hvalid.opsLimit_lt hvalid.memLimit_lt, Option.some.injEq]
  have hmagic : f.magic.toList.length = magic.length := f.magic.length_toList
  constructor
  · intro h
    obtain ⟨hfront, hkdf⟩ := List.append_inj h (by simp [hmagic])
    rw [encodeKdf, List.cons.injEq] at hkdf
    exact ⟨hfront, hkdf.1, hkdf.2.symm⟩
  · rintro ⟨hfront, hid, hlimits⟩
    rw [hfront, encodeKdf, hid, hlimits]

/-! ## The header alone -/

/-- A field of the header is the same in files with the same header. -/
theorem field_congr {data data' : List UInt8} (hlen : data.length = data'.length)
    (hheader : data.take 22 = data'.take 22) {start length : Nat} (h : start + length ≤ 22) :
    field data start length = field data' start length := by
  have hcut (bytes : List UInt8) :
      (bytes.drop start).take length = ((bytes.take 22).drop start).take length := by
    have hmin : min length (22 - start) = length := by omega
    rw [List.drop_take, List.take_take, hmin]
  unfold field
  rw [hlen, hcut data, hcut data', hheader]

theorem decodeCurrent_of_short {data : List UInt8}
    (h : ¬headerLength + ciphertextMin ≤ data.length) :
    decodeCurrent data = .error (.malformed "file too short for v1") := by
  unfold decodeCurrent
  rw [if_pos (Nat.lt_of_not_le h)]
  rfl

/-- What a file says about its key, and how it is refused otherwise, is decided by its length and
its header. -/
theorem kdf_decode_congr {data data' : List UInt8} (hlen : data.length = data'.length)
    (hheader : data.take 22 = data'.take 22) :
    Envelope.kdf <$> decode data = Envelope.kdf <$> decode data' := by
  by_cases hlong : headerLength + ciphertextMin ≤ data.length
  · -- Both files are made of fields, and agree on those that are looked at.
    obtain ⟨f, rfl⟩ := Fields.exists_bytes hlong
    obtain ⟨f', rfl⟩ := Fields.exists_bytes (hlen ▸ hlong)
    rw [f.take_header, f'.take_header] at hheader
    obtain ⟨hfront, hkdf⟩ := List.append_inj hheader (by simp)
    obtain ⟨hmagic, hversion⟩ := List.append_inj hfront (by simp)
    rw [List.cons.injEq] at hkdf hversion
    obtain ⟨hops, hmem⟩ := List.append_inj hkdf.2 (by simp)
    rw [decode_bytes, decode_bytes, hmagic, hversion.1, hkdf.1, hops, hmem]
    split
    · rfl
    · split
      · cases decodeKdf f'.id (LittleEndian.decode f'.ops.toList)
            (LittleEndian.decode f'.mem.toList) with
        | error e => rfl
        | ok kdf => rfl
      · rfl
  · -- A shorter file is refused for its magic, its version or its length, in this order.
    have hmagic : data.take magic.length = data'.take magic.length := by
      have h := congrArg (List.take magic.length) hheader
      rwa [List.take_take, List.take_take] at h
    have hversion : byteField data magic.length = byteField data' magic.length := by
      unfold byteField
      rw [field_congr hlen hheader (by decide)]
    unfold decode
    rw [decodeCurrent_of_short hlong, decodeCurrent_of_short (hlen ▸ hlong), hversion, hmagic, hlen]

end Sealing.Envelope
