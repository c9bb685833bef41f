import Sealing.Proofs.Envelope.Header
import Sealing.Proofs.Kdf.Derive
import Sealing.Proofs.SealedFile
/-!
# How a file is refused

Whether a file is refused, and with which error, says nothing about what it holds or what it is
opened with: the length of the file and its header decide it, along with the kind of the secret
(`verdict_openWith`).  Behind the header nothing fails any more, since an envelope that was decoded
has room for its tag and a cost that Argon2 takes.
-/

namespace Sealing

/-- The error that a call ends with, if it does. -/
def Outcome.verdict {α : Type} (x : Outcome α) : Except Error Unit :=
  (fun _ => ()) <$> x.result

theorem Outcome.verdict_eq_ok_iff {α : Type} {x : Outcome α} :
    x.verdict = .ok () ↔ ∃ a, x.result = .ok a := by
  simp only [verdict, Except.map_eq_ok_iff, and_true]

/-- Two keys, or two passwords. -/
def Secret.SameKind : Secret → Secret → Prop
  | .key _, .key _ => True
  | .password _, .password _ => True
  | _, _ => False

/-- A key, or a password that Argon2 takes. -/
def Secret.Usable : Secret → Prop
  | .key _ => True
  | .password p => Kdf.Hashable p

namespace SealedFile

open Envelope Kdf

/-- The checks between a header and the decryption: the secret is of the kind that the file was
sealed with, and the cost does not exceed the ceiling. -/
def checkSecret (kdf : Option Config) : Secret → Except Error Unit
  | .key _ =>
    match kdf with
    | none => .ok ()
    | some _ => .error (.invalidInput "file was sealed with a password, not a key")
  | .password _ =>
    match kdf with
    | none => .error (.invalidInput "file was sealed with a key, not a password")
    | some config => config.checkCeiling .highest

theorem checkSecret_congr {secret secret' : Secret} (h : secret.SameKind secret')
    (kdf : Option Config) : checkSecret kdf secret = checkSecret kdf secret' := by
  cases secret with
  | key key =>
    cases secret' with
    | key key' => rfl
    | password password => exact h.elim
  | password password =>
    cases secret' with
    | key key => exact h.elim
    | password password' => rfl

theorem checkSecret_key_eq_ok_iff {key : Key} {kdf : Option Config} :
    checkSecret kdf (.key key) = .ok () ↔ kdf = none := by
  cases kdf with
  | none => exact ⟨fun _ => rfl, fun _ => rfl⟩
  | some config =>
    constructor
    · intro h
      cases h
    · intro h
      cases h

theorem checkSecret_password_eq_ok_iff {password : String} {kdf : Option Config} :
    checkSecret kdf (.password password) = .ok () ↔
      ∃ config, kdf = some config ∧ config.checkCeiling .highest = .ok () := by
  cases kdf with
  | none =>
    constructor
    · intro h
      cases h
    · rintro ⟨config, h, -⟩
      cases h
  | some config =>
    constructor
    · intro h
      exact ⟨config, rfl, h⟩
    · rintro ⟨config', h, hceiling⟩
      cases h
      exact hceiling

/-! ## Nothing fails behind the header -/

/-- A ciphertext with room for its tag is always answered. -/
theorem verdict_messageDecrypt {ciphertext : List UInt8} (key : Key) (nonce : Nonce)
    (h : ciphertextMin ≤ ciphertext.length) :
    (Message.decrypt key nonce ciphertext).verdict = .ok () := by
  have hcheck : Message.checkCombined ciphertext = .ok () :=
    Message.result_checkCombined_eq_ok_iff.mpr h
  exact Outcome.verdict_eq_ok_iff.mpr (Message.exists_result_decrypt key nonce hcheck)

/-- And so it is under a password, if that has a key at the given cost. -/
theorem verdict_messageDecryptWithPassword {password : String} {config : Config}
    {ciphertext : List UInt8} (nonce : Nonce) (hpassword : Hashable password)
    (hconfig : config.Valid) (h : ciphertextMin ≤ ciphertext.length) :
    (Message.decryptWithPassword password nonce config ciphertext).verdict = .ok () := by
  obtain ⟨key, hkey⟩ := deriveKey_of_valid nonce hconfig hpassword
  obtain ⟨opened, hopened⟩ := Outcome.verdict_eq_ok_iff.mp (verdict_messageDecrypt key nonce h)
  refine Outcome.verdict_eq_ok_iff.mpr ⟨opened, ?_⟩
  rw [Message.result_decryptWithPassword_eq_ok_iff]
  exact ⟨key, by rw [hkey], hopened⟩

theorem verdict_decrypt {e : Envelope} {secret : Secret} (he : e.WellFormed)
    (hsecret : secret.Usable) : (decrypt e secret).verdict = checkSecret e.kdf secret := by
  obtain ⟨-, hvalid, hroom⟩ := he
  cases secret with
  | key key =>
    simp only [decrypt, checkSecret]
    cases e.kdf with
    | none => exact verdict_messageDecrypt key e.nonce hroom
    | some config => rfl
  | password password =>
    simp only [decrypt, checkSecret]
    cases hkdf : e.kdf with
    | none => rfl
    | some config =>
      show Outcome.verdict (liftM (config.checkCeiling .highest) >>= fun _ => _) =
        config.checkCeiling .highest
      cases hceiling : config.checkCeiling .highest with
      | error error => rfl
      | ok u =>
        rw [Outcome.lift_ok_bind]
        exact verdict_messageDecryptWithPassword e.nonce hsecret (hvalid config hkdf) hroom

/-- A file is refused for its header, or because the secret is not admitted to it. -/
theorem verdict_openWith {secret : Secret} (hsecret : secret.Usable) (data : List UInt8) :
    (openWith secret data).verdict =
      (Envelope.kdf <$> decode data) >>= fun kdf => checkSecret kdf secret := by
  unfold openWith
  cases hdecode : decode data with
  | error error => rfl
  | ok e =>
    have hwellFormed : e.WellFormed := (decode_eq_ok_iff.mp hdecode).1
    have hdecrypt := verdict_decrypt hwellFormed hsecret
    show _ = checkSecret e.kdf secret
    rw [← hdecrypt, Outcome.lift_ok_bind, Outcome.verdict, Outcome.verdict, Outcome.result_bind]
    cases (decrypt e secret).result with
    | error error => rfl
    | ok opened => rfl

/-! ## The files that are opened -/

/-- A file is opened exactly if its header is accepted and admits the secret. -/
theorem exists_openWith_iff {secret : Secret} (hsecret : secret.Usable) {data : List UInt8} :
    (∃ opened, (openWith secret data).result = .ok opened) ↔
      ∃ kdf, (∃ e, decode data = .ok e ∧ e.kdf = kdf) ∧ checkSecret kdf secret = .ok () := by
  rw [← Outcome.verdict_eq_ok_iff, verdict_openWith hsecret, Except.bind_eq_ok_iff]
  simp only [Except.map_eq_ok_iff]

theorem exists_openWith_key_iff {key : Key} {data : List UInt8} :
    (∃ opened, (openWith (.key key) data).result = .ok opened) ↔
      62 ≤ data.length ∧ data.take 22 = [0x53, 0x4c, 0x42, 0x58, 1, 0] ++ List.replicate 16 0 := by
  have hsecret : (Secret.key key).Usable := trivial
  rw [exists_openWith_iff hsecret]
  simp only [checkSecret_key_eq_ok_iff, exists_eq_right, exists_decode_iff]
  constructor
  · rintro ⟨hlen, -, hheader⟩
    exact ⟨hlen, hheader⟩
  · rintro ⟨hlen, hheader⟩
    exact ⟨hlen, by simp, hheader⟩

/-- A cost below the ceiling is valid exactly if its memory is whole KiB. -/
theorem valid_and_checkCeiling_iff {c : Config} :
    c.Valid ∧ c.checkCeiling .highest = .ok () ↔
      (c.algorithm.opsMin ≤ c.opsLimit ∧
        c.opsLimit ≤ SecurityLevel.sensitive.ops c.algorithm) ∧
      (c.algorithm.memMin ≤ c.memLimit ∧
        c.memLimit ≤ SecurityLevel.sensitive.mem c.algorithm) ∧
      c.memLimit % 1024 = 0 := by
  rw [Config.checkCeiling_eq_ok_iff]
  constructor
  · rintro ⟨⟨-, -, hkib⟩, hops, hmem⟩
    exact ⟨hops, hmem, hkib⟩
  · rintro ⟨hops, hmem, hkib⟩
    -- The ceiling lies within the bounds of each algorithm.
    have hhighest := Config.preset_valid .sensitive c.algorithm
    exact ⟨⟨⟨hops.1, Nat.le_trans hops.2 hhighest.1.2⟩,
      ⟨hmem.1, Nat.le_trans hmem.2 hhighest.2.1.2⟩, hkib⟩, hops, hmem⟩

theorem exists_openWith_password_iff {password : String} (hpassword : Hashable password)
    {data : List UInt8} :
    (∃ opened, (openWith (.password password) data).result = .ok opened) ↔
      62 ≤ data.length ∧ data.take 5 = [0x53, 0x4c, 0x42, 0x58, 1] ∧
      ∃ c : Config, data[5]? = some c.algorithm.id ∧
        c.opsLimit = LittleEndian.decode ((data.drop 6).take 8) ∧
        c.memLimit = LittleEndian.decode ((data.drop 14).take 8) ∧
        c.Valid ∧ c.checkCeiling .highest = .ok () := by
  have hsecret : (Secret.password password).Usable := hpassword
  rw [exists_openWith_iff hsecret]
  simp only [checkSecret_password_eq_ok_iff, exists_decode_iff]
  constructor
  · rintro ⟨kdf, ⟨hlen, hvalid, hheader⟩, c, rfl, hceiling⟩
    have hc : c.Valid := hvalid c rfl
    obtain ⟨hfront, hid, hops, hmem⟩ := (take_header_eq_some_iff hlen hc).mp hheader
    exact ⟨hlen, hfront, c, hid, hops, hmem, hc, hceiling⟩
  · rintro ⟨hlen, hfront, c, hid, hops, hmem, hc, hceiling⟩
    have hheader := (take_header_eq_some_iff hlen hc).mpr ⟨hfront, hid, hops, hmem⟩
    exact ⟨some c, ⟨hlen, by simpa using hc, hheader⟩, c, rfl, hceiling⟩

/-- Which error a file is refused with, if any, does not depend on what is secret: files sealed
under a key are opened by their first 22 bytes, files sealed under a password by the limits in their
header, and two files of one length that agree on those bytes are refused alike under any two
secrets of one kind. -/
theorem openWith_refusals :
    (∀ key data, (∃ opened, (openWith (.key key) data).result = .ok opened) ↔
      62 ≤ data.length ∧
        data.take 22 = [0x53, 0x4c, 0x42, 0x58, 1, 0] ++ List.replicate 16 0) ∧
    (∀ password data, (passwordBytes password).length < 2 ^ 32 →
      ((∃ opened, (openWith (.password password) data).result = .ok opened) ↔
        62 ≤ data.length ∧ data.take 5 = [0x53, 0x4c, 0x42, 0x58, 1] ∧
        ∃ algorithm opsLimit memLimit, data[5]? = some algorithm.id ∧
          opsLimit = LittleEndian.decode ((data.drop 6).take 8) ∧
          memLimit = LittleEndian.decode ((data.drop 14).take 8) ∧
          (algorithm.opsMin ≤ opsLimit ∧ opsLimit ≤ SecurityLevel.sensitive.ops algorithm) ∧
          (algorithm.memMin ≤ memLimit ∧ memLimit ≤ SecurityLevel.sensitive.mem algorithm) ∧
          memLimit % 1024 = 0)) ∧
    (∀ secret secret' data data', secret.SameKind secret' → secret.Usable → secret'.Usable →
      data.length = data'.length → data.take 22 = data'.take 22 →
      (openWith secret data).verdict = (openWith secret' data').verdict) := by
  refine ⟨?keys, ?passwords, ?alike⟩
  case keys =>
    intro key data
    exact exists_openWith_key_iff
  case passwords =>
    intro password data hpassword
    rw [exists_openWith_password_iff hpassword]
    simp only [valid_and_checkCeiling_iff]
    constructor
    · rintro ⟨hlen, hfront, c, hc⟩
      exact ⟨hlen, hfront, c.algorithm, c.opsLimit, c.memLimit, hc⟩
    · rintro ⟨hlen, hfront, algorithm, opsLimit, memLimit, h⟩
      exact ⟨hlen, hfront, ⟨algorithm, opsLimit, memLimit⟩, h⟩
  case alike =>
    intro secret secret' data data' hkind hsecret hsecret' hlen hheader
    rw [verdict_openWith hsecret, verdict_openWith hsecret', kdf_decode_congr hlen hheader]
    simp only [checkSecret_congr hkind]

end SealedFile

end Sealing
