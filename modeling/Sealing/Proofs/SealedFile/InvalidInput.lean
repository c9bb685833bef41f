import Sealing.Proofs.SealedFile.Refusals
import Sealing.Report
/-!
# Files that are refused as invalid input

Invalid input is meant for a secret of the wrong kind: what is wrong with the bytes of a file makes
it malformed, or puts its limits out of range.  One header escapes that.  A memory limit that lies in
the range of its algorithm and is not whole KiB is refused by the check that also guards the callers
of `Config.new`, and its error is handed on as it is (`SealedFile.invalidInput_refusals`).
-/

namespace Sealing

/-- The bytes are no sealed file, or one whose limits are out of range. -/
def Error.OfHeader (e : Error) : Prop :=
  (∃ reason, e = .malformed reason) ∨ ∃ what value min max, e = .invalidLimit what value min max

namespace Envelope

open Kdf

/-- The header is one for a password, with limits in range but a memory that is not whole KiB. -/
def FractionalMemory (data : List UInt8) : Prop :=
  headerLength + ciphertextMin ≤ data.length ∧ data.take 5 = magic ++ [currentVersion] ∧
    ∃ c : Config, data[5]? = some c.algorithm.id ∧
      c.opsLimit = LittleEndian.decode ((data.drop 6).take 8) ∧
      c.memLimit = LittleEndian.decode ((data.drop 14).take 8) ∧ c.Fractional

/-! ## What decoding fails with -/

theorem decodeKdf_eq_error {id : UInt8} {ops mem : Nat} {e : Error}
    (h : decodeKdf id ops mem = .error e) :
    e.OfHeader ∨ (∃ c : Config, id = c.algorithm.id ∧ c.opsLimit = ops ∧ c.memLimit = mem ∧
      c.Fractional) ∧ ∃ reason, e = .invalidInput reason := by
  unfold decodeKdf at h
  split at h
  · -- A file for a key: its limits are zero, or it is malformed.
    split at h
    · cases h
    · cases h
      exact .inl (.inl ⟨_, rfl⟩)
  · split at h
    · cases h
      exact .inl (.inl ⟨_, rfl⟩)
    · rename_i algorithm halgorithm
      rw [Except.map_eq_error_iff, Config.new] at h
      rcases Except.bind_eq_error_iff.mp h with h | ⟨_, -, h⟩
      · rcases Config.validate_eq_error h with hlimit | ⟨hfractional, hreason⟩
        · exact .inl (.inr hlimit)
        · have hid := Algorithm.ofId?_eq_some_iff.mp halgorithm
          exact .inr ⟨⟨_, hid.symm, rfl, rfl, hfractional⟩, hreason⟩
      · cases h

theorem decodeKdf_of_fractional {c : Config} (h : c.Fractional) :
    ∃ reason, decodeKdf c.algorithm.id c.opsLimit c.memLimit = .error (.invalidInput reason) := by
  have hid : c.algorithm.id ≠ keyFileId := by
    cases c.algorithm <;> decide
  obtain ⟨reason, hvalidate⟩ := Config.validate_of_fractional h
  unfold decodeKdf
  rw [if_neg hid, Algorithm.ofId?_eq_some_iff.mpr rfl]
  simp only [Config.new, hvalidate, Except.error_bind]
  exact ⟨reason, rfl⟩

theorem fractionalMemory_bytes_iff {f : Fields} :
    FractionalMemory f.bytes ↔ f.magic.toList = magic ∧ f.version = currentVersion ∧
      ∃ c : Config, f.id = c.algorithm.id ∧ c.opsLimit = LittleEndian.decode f.ops.toList ∧
        c.memLimit = LittleEndian.decode f.mem.toList ∧ c.Fractional := by
  have hmagic : f.magic.toList.length = magic.length := f.magic.length_toList
  unfold FractionalMemory
  rw [f.take_front, f.getElem?_id, f.decode_ops, f.decode_mem]
  simp only [Option.some.injEq]
  constructor
  · rintro ⟨-, hfront, hlimits⟩
    obtain ⟨hfirst, hversion⟩ := List.append_inj hfront hmagic
    exact ⟨hfirst, List.head_eq_of_cons_eq hversion, hlimits⟩
  · rintro ⟨hfirst, hversion, hlimits⟩
    exact ⟨f.le_length_bytes, by rw [hfirst, hversion], hlimits⟩

theorem byteField_eq_error {data : List UInt8} {start : Nat} {e : Error}
    (h : byteField data start = .error e) : ∃ reason, e = .malformed reason := by
  unfold byteField field at h
  rcases Except.bind_eq_error_iff.mp h with h | ⟨bytes, -, h⟩
  · split at h
    · cases h
    · cases h
      exact ⟨_, rfl⟩
  · split at h
    · cases h
    · cases h
      exact ⟨_, rfl⟩

/-- A file without room for header and tag is malformed, whatever is found wrong first. -/
theorem decode_eq_error_of_short {data : List UInt8} {e : Error}
    (hlen : ¬headerLength + ciphertextMin ≤ data.length) (h : decode data = .error e) :
    ∃ reason, e = .malformed reason := by
  simp only [decode, decodeCurrent_of_short hlen, Except.throw_eq, Except.error_bind] at h
  split at h
  · cases h
    exact ⟨_, rfl⟩
  split at h
  · cases h
    exact ⟨_, rfl⟩
  rcases Except.bind_eq_error_iff.mp h with h | ⟨version, -, h⟩
  · exact byteField_eq_error h
  split at h
  · cases h
    exact ⟨_, rfl⟩
  · cases h
    exact ⟨_, rfl⟩

theorem decode_eq_error {data : List UInt8} {e : Error} (h : decode data = .error e) :
    e.OfHeader ∨ FractionalMemory data ∧ ∃ reason, e = .invalidInput reason := by
  by_cases hlen : headerLength + ciphertextMin ≤ data.length
  · obtain ⟨f, rfl⟩ := Fields.exists_bytes hlen
    rw [decode_bytes] at h
    split at h
    · cases h
      exact .inl (.inl ⟨_, rfl⟩)
    rename_i hmagic
    split at h
    · rename_i hversion
      rw [Except.map_eq_error_iff] at h
      rcases decodeKdf_eq_error h with hheader | ⟨hlimits, hreason⟩
      · exact .inl hheader
      · rw [fractionalMemory_bytes_iff]
        exact .inr ⟨⟨Decidable.not_not.mp hmagic, hversion, hlimits⟩, hreason⟩
    · cases h
      exact .inl (.inl ⟨_, rfl⟩)
  · exact .inl (.inl (decode_eq_error_of_short hlen h))

theorem decode_of_fractionalMemory {data : List UInt8} (h : FractionalMemory data) :
    ∃ reason, decode data = .error (.invalidInput reason) := by
  obtain ⟨f, rfl⟩ := Fields.exists_bytes h.1
  obtain ⟨hmagic, hversion, c, hid, hops, hmem, hfractional⟩ := fractionalMemory_bytes_iff.mp h
  obtain ⟨reason, hkdf⟩ := decodeKdf_of_fractional hfractional
  rw [decode_bytes, if_neg (not_not_intro hmagic), if_pos hversion, hid, ← hops, ← hmem, hkdf]
  exact ⟨reason, rfl⟩

theorem decode_eq_invalidInput_iff {data : List UInt8} :
    (∃ reason, decode data = .error (.invalidInput reason)) ↔ FractionalMemory data := by
  constructor
  · rintro ⟨reason, h⟩
    rcases decode_eq_error h with (⟨_, he⟩ | ⟨_, _, _, _, he⟩) | ⟨hfractional, -⟩
    · cases he
    · cases he
    · exact hfractional
  · exact decode_of_fractionalMemory

end Envelope

/-- The secret is not of the kind that the file was sealed with: a key for a file under a password,
or a password for a file under a key. -/
def Report.Mismatches (r : Report) : Secret → Prop
  | .key _ => r.kdf ≠ none
  | .password _ => r.kdf = none

namespace SealedFile

open Envelope Kdf

/-! ## What opening fails with behind the header -/

/-- Only the algorithm behind a derivation refuses a ciphertext with room for its tag. -/
theorem decryptWithPassword_eq_error {password : String} {nonce : Nonce} {config : Config}
    {ciphertext : List UInt8} {e : Error} (hconfig : config.Valid)
    (hroom : ciphertextMin ≤ ciphertext.length)
    (h : (Message.decryptWithPassword password nonce config ciphertext).result = .error e) :
    ∃ operation reason, e = .backend operation reason := by
  have hcheck : Message.checkCombined ciphertext = .ok () :=
    Message.result_checkCombined_eq_ok_iff.mpr hroom
  unfold Message.decryptWithPassword at h
  rw [hcheck, Outcome.lift_ok_bind, Outcome.result_bind] at h
  rcases Except.bind_eq_error_iff.mp h with h | ⟨key, -, h⟩
  · exact deriveKey_eq_error hconfig h
  · obtain ⟨opened, hopened⟩ := Outcome.verdict_eq_ok_iff.mp (verdict_messageDecrypt key nonce hroom)
    rw [hopened] at h
    cases h

/-- What a file holds is refused as invalid input exactly for the kind of the secret. -/
theorem decrypt_eq_invalidInput_iff {e : Envelope} {secret : Secret} (he : e.WellFormed) :
    (∃ reason, (decrypt e secret).result = .error (.invalidInput reason)) ↔
      (Report.ofEnvelope e).Mismatches secret := by
  obtain ⟨-, hvalid, hroom⟩ := he
  cases secret with
  | key key =>
    show _ ↔ e.kdf ≠ none
    simp only [decrypt]
    cases e.kdf with
    | none =>
      obtain ⟨opened, hopened⟩ :=
        Outcome.verdict_eq_ok_iff.mp (verdict_messageDecrypt key e.nonce hroom)
      simp [hopened]
    | some config =>
      constructor
      · intro _
        exact Option.some_ne_none config
      · intro _
        exact ⟨_, rfl⟩
  | password password =>
    show _ ↔ e.kdf = none
    simp only [decrypt]
    cases hkdf : e.kdf with
    | none =>
      constructor
      · intro _
        rfl
      · intro _
        exact ⟨_, rfl⟩
    | some config =>
      -- The ceiling and the derivation have errors of their own.
      constructor
      · rintro ⟨reason, h⟩
        simp only [Outcome.result_bind, Outcome.result_lift] at h
        rcases Except.bind_eq_error_iff.mp h with h | ⟨_, -, h⟩
        · obtain ⟨_, _, _, _, he⟩ := Config.checkCeiling_eq_error h
          cases he
        · obtain ⟨_, _, he⟩ := decryptWithPassword_eq_error (hvalid config hkdf) hroom h
          cases he
      · intro h
        cases h

theorem inspect_eq_error_iff {data : List UInt8} {e : Error} :
    Report.inspect data = .error e ↔ decode data = .error e :=
  Except.map_eq_error_iff

theorem openWith_eq_invalidInput_iff {data : List UInt8} {secret : Secret} :
    (∃ reason, (openWith secret data).result = .error (.invalidInput reason)) ↔
      FractionalMemory data ∨
        ∃ report, Report.inspect data = .ok report ∧ report.Mismatches secret := by
  rw [← decode_eq_invalidInput_iff]
  cases hdecode : decode data with
  | error e =>
    have hinspect : Report.inspect data = .error e := inspect_eq_error_iff.mpr hdecode
    have hopen : (openWith secret data).result = .error e := by
      unfold openWith
      rw [hdecode]
      rfl
    simp [hinspect, hopen]
  | ok e =>
    have hinspect : Report.inspect data = .ok (.ofEnvelope e) := by
      rw [Report.inspect, hdecode]
      rfl
    have hopen (reason : String) :
        (openWith secret data).result = .error (.invalidInput reason) ↔
          (decrypt e secret).result = .error (.invalidInput reason) := by
      unfold openWith
      rw [hdecode, Outcome.lift_ok_bind, Outcome.result_bind]
      cases (decrypt e secret).result with
      | error error => rfl
      | ok opened => simp [Outcome.result_bind]
    simp only [hopen, hinspect, decrypt_eq_invalidInput_iff (decode_eq_ok_iff.mp hdecode).1]
    simp

/-! ## Invalid input -/

/-- A file that cannot be inspected is malformed or has limits out of range, unless its memory is not
whole KiB, and then it is refused as invalid input.  Opening refuses such a file alike; apart from
it, opening refuses as invalid input exactly what can be inspected and was sealed with a secret of
the other kind. -/
theorem invalidInput_refusals (data : List UInt8) :
    ((∃ report, Report.inspect data = .ok report) ∨
      (∃ reason, Report.inspect data = .error (.malformed reason)) ∨
      (∃ what value min max, Report.inspect data = .error (.invalidLimit what value min max)) ∨
      FractionalMemory data ∧ ∃ reason, Report.inspect data = .error (.invalidInput reason)) ∧
    ((∃ reason, Report.inspect data = .error (.invalidInput reason)) ↔ FractionalMemory data) ∧
    ∀ secret, (∃ reason, (openWith secret data).result = .error (.invalidInput reason)) ↔
      FractionalMemory data ∨
        ∃ report, Report.inspect data = .ok report ∧ report.Mismatches secret := by
  refine ⟨?inspected, ?fractional, ?opened⟩
  case inspected =>
    cases h : Report.inspect data with
    | ok report => exact .inl ⟨report, rfl⟩
    | error e =>
      right
      rcases decode_eq_error (inspect_eq_error_iff.mp h) with
        (⟨reason, rfl⟩ | ⟨what, value, min, max, rfl⟩) | ⟨hfractional, reason, rfl⟩
      · exact .inl ⟨reason, rfl⟩
      · exact .inr (.inl ⟨what, value, min, max, rfl⟩)
      · exact .inr (.inr ⟨hfractional, reason, rfl⟩)
  case fractional =>
    simp only [inspect_eq_error_iff, decode_eq_invalidInput_iff]
  case opened =>
    intro secret
    exact openWith_eq_invalidInput_iff

/-- A header for a password at a single pass over 8193 bytes, with room for a tag behind it. -/
def fractionalHeader : List UInt8 :=
  magic ++ [currentVersion, 2] ++ LittleEndian.encode 8 1 ++ LittleEndian.encode 8 8193 ++
    List.replicate 40 0

/-- The bytes are at fault, whatever they are opened with, and yet it is called invalid input. -/
theorem inspect_fractionalHeader :
    Report.inspect fractionalHeader =
        .error (.invalidInput "mem limit 8193 is not a whole number of KiB") ∧
      (openWith (.password "") fractionalHeader).result =
        .error (.invalidInput "mem limit 8193 is not a whole number of KiB") := by
  decide +kernel

end SealedFile

end Sealing
