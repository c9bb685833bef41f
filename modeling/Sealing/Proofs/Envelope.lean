import Sealing.LittleEndian.Lemmas
import Sealing.Proofs.Envelope.Fields
import Sealing.Proofs.Kdf.Config
/-!
# Envelopes and their bytes

The envelopes that are well formed and the byte strings that are accepted stand in one-to-one
correspondence: `decode` and `encode` are the two directions of it.  Both are compared with the
fields that a long enough file is made of.
-/

namespace Sealing

/-- Bytes are the digits of a number that they can hold exactly if they decode to it. -/
theorem LittleEndian.encode_eq_iff {bs : List UInt8} {x : Nat} (hx : x < 256 ^ bs.length) :
    encode bs.length x = bs ↔ decode bs = x := by
  constructor
  · intro h
    rw [← h, decode_encode, Nat.mod_eq_of_lt hx]
  · rintro rfl
    exact encode_decode bs

theorem Kdf.Algorithm.ofId?_eq_some_iff {n : UInt8} {algorithm : Algorithm} :
    ofId? n = some algorithm ↔ algorithm.id = n := by
  constructor
  · intro h
    simpa using List.find?_some h
  · rintro rfl
    cases algorithm <;> rfl

namespace Envelope

open Kdf

/-! ## The header fields on deriving the key -/

theorem decodeKdf_eq_ok_none_iff {id : UInt8} {ops mem : Nat} :
    decodeKdf id ops mem = .ok none ↔ id = keyFileId ∧ ops = 0 ∧ mem = 0 := by
  unfold decodeKdf
  by_cases hid : id = keyFileId
  · rw [if_pos hid]
    by_cases hzero : ops = 0 ∧ mem = 0
    · rw [if_pos hzero]
      exact ⟨fun _ => ⟨hid, hzero⟩, fun _ => rfl⟩
    · rw [if_neg hzero]
      constructor
      · intro h
        cases h
      · intro h
        exact absurd h.2 hzero
  · rw [if_neg hid]
    constructor
    · intro h
      split at h
      · cases h
      · obtain ⟨c, -, hc⟩ := Except.map_eq_ok_iff.mp h
        cases hc
    · intro h
      exact absurd h.1 hid

theorem decodeKdf_eq_ok_some_iff {id : UInt8} {ops mem : Nat} {c : Config} :
    decodeKdf id ops mem = .ok (some c) ↔
      c.Valid ∧ c.algorithm.id = id ∧ c.opsLimit = ops ∧ c.memLimit = mem := by
  unfold decodeKdf
  constructor
  · intro h
    split at h
    · split at h
      · cases h
      · cases h
    · split at h
      · cases h
      · rename_i algorithm halgorithm
        obtain ⟨c', hnew, hc⟩ := Except.map_eq_ok_iff.mp h
        cases hc
        obtain ⟨rfl, hvalid⟩ := Config.new_eq_ok_iff.mp hnew
        exact ⟨hvalid, Algorithm.ofId?_eq_some_iff.mp halgorithm, rfl, rfl⟩
  · rintro ⟨hvalid, rfl, rfl, rfl⟩
    -- No algorithm has the number of a file sealed under a key.
    have hid : c.algorithm.id ≠ keyFileId := by
      cases c.algorithm <;> decide
    rw [if_neg hid, Algorithm.ofId?_eq_some_iff.mpr rfl]
    exact Except.map_eq_ok_iff.mpr ⟨c, Config.new_eq_ok_iff.mpr ⟨rfl, hvalid⟩, rfl⟩

theorem length_encodeKdf (kdf : Option Config) : (encodeKdf kdf).length = 17 := by
  cases kdf with
  | none => rfl
  | some c => simp [encodeKdf]

/-- The limits of a file sealed under a key are the number zero twice. -/
theorem encodeKdf_none :
    encodeKdf none = keyFileId :: (LittleEndian.encode 8 0 ++ LittleEndian.encode 8 0) := by
  decide

/-- Two limits are written as the bytes that decode to them. -/
theorem encode_limits_eq_iff {ops mem : FixedBytes 8} {opsLimit memLimit : Nat}
    (hops : opsLimit < UInt64.size) (hmem : memLimit < UInt64.size) :
    LittleEndian.encode 8 opsLimit ++ LittleEndian.encode 8 memLimit = ops.toList ++ mem.toList ↔
      opsLimit = LittleEndian.decode ops.toList ∧ memLimit = LittleEndian.decode mem.toList := by
  have one (number : FixedBytes 8) {x : Nat} (hx : x < UInt64.size) :
      LittleEndian.encode 8 x = number.toList ↔ x = LittleEndian.decode number.toList := by
    have hlt : x < 256 ^ number.toList.length := by
      rw [number.length_toList]
      exact hx
    have h := LittleEndian.encode_eq_iff hlt
    rwa [number.length_toList, eq_comm (b := x)] at h
  rw [← one ops hops, ← one mem hmem]
  constructor
  · intro h
    exact List.append_inj h (by simp)
  · rintro ⟨ho, hm⟩
    rw [ho, hm]

/-- What stands in the header on deriving the key is read as the valid configuration, or the lack of
one, that it is written for. -/
theorem decodeKdf_eq_ok_iff {id : UInt8} {ops mem : FixedBytes 8} {kdf : Option Config} :
    decodeKdf id (LittleEndian.decode ops.toList) (LittleEndian.decode mem.toList) = .ok kdf ↔
      (∀ c ∈ kdf, c.Valid) ∧ encodeKdf kdf = id :: (ops.toList ++ mem.toList) := by
  cases kdf with
  | none =>
    have hzero : 0 < UInt64.size := by decide
    rw [decodeKdf_eq_ok_none_iff, encodeKdf_none, List.cons.injEq,
      encode_limits_eq_iff hzero hzero, eq_comm (a := id), eq_comm (b := 0), eq_comm (b := 0)]
    simp
  | some c =>
    rw [decodeKdf_eq_ok_some_iff, encodeKdf, List.cons.injEq]
    simp only [Option.mem_some_iff, forall_eq']
    refine and_congr_right fun hvalid => ?_
    rw [encode_limits_eq_iff hvalid.opsLimit_lt hvalid.memLimit_lt]

/-! ## Envelopes and fields -/

/-- An envelope and fields that say the same. -/
def Fields.Holds (f : Fields) (e : Envelope) : Prop :=
  f.magic.toList = Envelope.magic ∧ f.version = currentVersion ∧
    ((∀ c ∈ e.kdf, c.Valid) ∧ encodeKdf e.kdf = f.id :: (f.ops.toList ++ f.mem.toList)) ∧
    new e.kdf f.nonce f.ciphertext = e

theorem decode_bytes_eq_ok_iff {f : Fields} {e : Envelope} :
    decode f.bytes = .ok e ↔ f.Holds e := by
  rw [decode_bytes, Fields.Holds]
  by_cases hmagic : f.magic.toList = Envelope.magic
  · by_cases hversion : f.version = currentVersion
    · rw [if_neg (not_not.mpr hmagic), if_pos hversion, Except.map_eq_ok_iff]
      constructor
      · rintro ⟨kdf, hkdf, rfl⟩
        exact ⟨hmagic, hversion, decodeKdf_eq_ok_iff.mp hkdf, rfl⟩
      · rintro ⟨-, -, hkdf, he⟩
        exact ⟨e.kdf, decodeKdf_eq_ok_iff.mpr hkdf, he⟩
    · rw [if_neg (not_not.mpr hmagic), if_neg hversion]
      constructor
      · intro h
        cases h
      · intro h
        exact absurd h.2.1 hversion
  · rw [if_pos hmagic]
    constructor
    · intro h
      cases h
    · intro h
      exact absurd h.1 hmagic

/-- The fields in the groups in which they are written. -/
theorem Fields.bytes_eq (f : Fields) :
    f.bytes = f.magic.toList ++ [f.version] ++ (f.id :: (f.ops.toList ++ f.mem.toList)) ++
      f.nonce.toList ++ f.ciphertext := by
  simp [bytes]

theorem encode_eq_ok_bytes_iff {f : Fields} {e : Envelope} :
    e.WellFormed ∧ encode e = .ok f.bytes ↔ f.Holds e := by
  constructor
  · rintro ⟨⟨hcurrent, hvalid, -⟩, h⟩
    rw [encode, if_pos hcurrent, Except.ok.injEq, f.bytes_eq] at h
    -- Each group has the length of its counterpart, so that they agree one by one from the end.
    have hmagic : Envelope.magic.length = 4 := rfl
    obtain ⟨h, hciphertext⟩ := List.append_inj h (by simp [hmagic, length_encodeKdf])
    obtain ⟨h, hnonce⟩ := List.append_inj h (by simp [hmagic, length_encodeKdf])
    obtain ⟨h, hkdf⟩ := List.append_inj h (by simp [hmagic])
    obtain ⟨h, hversion⟩ := List.append_inj h (by simp [hmagic])
    rw [List.cons.injEq, hcurrent] at hversion
    rw [Nonce.toList_inj] at hnonce
    refine ⟨h.symm, hversion.1.symm, ⟨hvalid, hkdf⟩, ?_⟩
    rw [← hnonce, ← hciphertext, new, ← hcurrent]
  · -- An envelope that holds the fields is the one they make.
    rintro ⟨hmagic, hversion, ⟨hvalid, hkdf⟩, he⟩
    obtain ⟨version, kdf, nonce, ciphertext⟩ := e
    cases he
    refine ⟨⟨rfl, hvalid, f.room⟩, ?_⟩
    rw [f.bytes_eq, hmagic, hversion, ← hkdf]
    rfl

/-! ## Headers -/

/-- What stands before the ciphertext. -/
def header (e : Envelope) : List UInt8 :=
  magic ++ [e.version] ++ encodeKdf e.kdf ++ e.nonce.toList

theorem length_header (e : Envelope) : e.header.length = headerLength := by
  simp only [header, List.length_append, length_encodeKdf, Nonce.length_toList, List.length_cons,
    List.length_nil, magic, headerLength]

theorem WellFormed.encode_eq {e : Envelope} (h : e.WellFormed) :
    encode e = .ok (e.header ++ e.ciphertext) :=
  if_pos h.1

/-! ## The correspondence -/

theorem length_of_encode {e : Envelope} {data : List UInt8} (h : encode e = .ok data) :
    data.length = headerLength + e.ciphertext.length := by
  unfold encode at h
  split at h
  · cases h
    show (e.header ++ e.ciphertext).length = _
    rw [List.length_append, length_header]
  · cases h

/-- A byte string is accepted as an envelope exactly if that is well formed and written so. -/
theorem decode_eq_ok_iff {data : List UInt8} {e : Envelope} :
    decode data = .ok e ↔ e.WellFormed ∧ encode e = .ok data := by
  by_cases hlen : headerLength + ciphertextMin ≤ data.length
  · obtain ⟨f, rfl⟩ := Fields.exists_bytes hlen
    rw [decode_bytes_eq_ok_iff, encode_eq_ok_bytes_iff]
  · -- Too short to be accepted, and too short to be written.
    constructor
    · intro h
      exact absurd (length_of_decode h) hlen
    · rintro ⟨⟨-, -, hroom⟩, h⟩
      rw [length_of_encode h] at hlen
      exact absurd (Nat.add_le_add_left hroom _) hlen

theorem WellFormed.exists_encode {e : Envelope} (h : e.WellFormed) :
    ∃ data, encode e = .ok data :=
  ⟨_, h.encode_eq⟩

/-- Well-formed envelopes with the same bytes are the same. -/
theorem WellFormed.eq_of_encode {e e' : Envelope} {data : List UInt8} (h : e.WellFormed)
    (h' : e'.WellFormed) (hdata : encode e = .ok data) (hdata' : encode e' = .ok data) :
    e = e' := by
  have he : decode data = .ok e := decode_eq_ok_iff.mpr ⟨h, hdata⟩
  have he' : decode data = .ok e' := decode_eq_ok_iff.mpr ⟨h', hdata'⟩
  rw [he, Except.ok.injEq] at he'
  exact he'

/-- An envelope is well formed if it passes the checks that a reader makes. -/
theorem wellFormed_iff {e : Envelope} :
    e.WellFormed ↔ e.version = currentVersion ∧ (∀ c ∈ e.kdf, c.validate = .ok ()) ∧
      ciphertextMin ≤ e.ciphertext.length := by
  simp only [WellFormed, Config.validate_eq_ok_iff]

/-- The accepted byte strings and the well-formed envelopes correspond one to one: whatever is
accepted is the one encoding of what it decodes to, every well-formed envelope has an encoding, and
no two of them share theirs.  Well formed are those of the current version with a cost that is
validated and room for a tag. -/
theorem decode_encode_bijection :
    (∀ e : Envelope, e.WellFormed ↔ e.version = currentVersion ∧
      (∀ c ∈ e.kdf, c.validate = .ok ()) ∧ ciphertextMin ≤ e.ciphertext.length) ∧
    (∀ data e, decode data = .ok e ↔ e.WellFormed ∧ encode e = .ok data) ∧
    (∀ e, e.WellFormed → ∃ data, encode e = .ok data) ∧
    (∀ e e' data, e.WellFormed → e'.WellFormed → encode e = .ok data → encode e' = .ok data →
      e = e') ∧
    (∀ data data' e, decode data = .ok e → decode data' = .ok e → data = data') := by
  refine ⟨?checks, ?inverse, ?total, ?injective, ?canonical⟩
  case checks =>
    intro e
    exact wellFormed_iff
  case inverse =>
    intro data e
    exact decode_eq_ok_iff
  case total =>
    intro e h
    exact h.exists_encode
  case injective =>
    intro e e' data h h' hdata hdata'
    exact h.eq_of_encode h' hdata hdata'
  case canonical =>
    intro data data' e h h'
    have hdata := (decode_eq_ok_iff.mp h).2
    have hdata' := (decode_eq_ok_iff.mp h').2
    rw [hdata, Except.ok.injEq] at hdata'
    exact hdata'

/-! ## Headers of accepted files -/

variable {data data' : List UInt8} {e e' : Envelope}

theorem bytes_of_decode (h : decode data = .ok e) : data = e.header ++ e.ciphertext := by
  obtain ⟨hformed, hdata⟩ := decode_eq_ok_iff.mp h
  rw [hformed.encode_eq, Except.ok.injEq] at hdata
  exact hdata.symm

theorem take_of_decode (h : decode data = .ok e) : data.take headerLength = e.header := by
  rw [bytes_of_decode h, ← e.length_header, List.take_left]

/-- Well-formed envelopes with one header say the same but for their ciphertexts: the one
ciphertext would do behind the other header. -/
theorem WellFormed.eq_of_header (h : e.WellFormed) (h' : e'.WellFormed)
    (hheader : e.header = e'.header) : { e with ciphertext := e'.ciphertext } = e' := by
  have hformed : WellFormed { e with ciphertext := e'.ciphertext } := ⟨h.1, h.2.1, h'.2.2⟩
  have hsame : encode { e with ciphertext := e'.ciphertext } = .ok (e'.header ++ e'.ciphertext) := by
    rw [hformed.encode_eq, ← hheader]
    rfl
  exact hformed.eq_of_encode h' hsame h'.encode_eq

end Envelope

end Sealing
