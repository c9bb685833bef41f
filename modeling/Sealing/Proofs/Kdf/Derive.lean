import Sealing.Kdf.Derive
import Sealing.Proofs.Kdf.Config
/-!
# Derivations

A derivation reports the cost that it ran at, and it reports it exactly if it ran: one that is
refused is refused before any work.  Under a valid configuration the length of the password is all
that can refuse it (`deriveKey_of_valid`).
-/

namespace Sealing.Kdf

/-- A valid cost has its numbers in the units of Argon2. -/
theorem Config.parameters_of_valid {c : Config} (h : c.Valid) :
    c.parameters = .ok ⟨.ofNat (c.memLimit / 1024), .ofNat c.opsLimit⟩ := by
  refine parameters_of_lt (validate_eq_ok_iff.mpr h) h.passes_lt h.blocks_lt ?_
  have hmemory : ¬UInt32.ofNat (c.memLimit / 1024) < 8 := by
    rw [UInt32.lt_iff_toNat_lt, UInt32.toNat_ofNat_of_lt' h.blocks_lt]
    exact Nat.not_lt.mpr h.eight_le_blocks
  have htime : ¬UInt32.ofNat c.opsLimit < 1 := by
    rw [UInt32.lt_iff_toNat_lt, UInt32.toNat_ofNat_of_lt' h.passes_lt]
    exact Nat.not_lt.mpr h.one_le_passes
  rw [Argon2.Parameters.check, if_neg hmemory, if_neg htime]

variable (password : String) (nonce : Nonce) (config : Config)

/-- A password that Argon2 takes. -/
def Hashable (password : String) : Prop :=
  (passwordBytes password).length < Argon2.passwordBound

instance : Decidable (Hashable password) := inferInstanceAs (Decidable (_ < _))

/-- A derivation is refused with nothing reported, or it runs at the given cost and reports it. -/
theorem deriveKey_cases :
    (∃ e, deriveKey password nonce config = ⟨[], .error e⟩) ∨
      ∃ key, deriveKey password nonce config = ⟨[.derivedKey config], .ok key⟩ := by
  unfold deriveKey
  cases hsalt : salt nonce config.algorithm.saltLength with
  | error e => exact .inl ⟨e, rfl⟩
  | ok salt =>
    cases hparameters : config.parameters with
    | error e => exact .inl ⟨e, rfl⟩
    | ok parameters =>
      simp only [Outcome.lift_ok_bind]
      cases hderive : Argon2.derive config.algorithm.variant parameters (passwordBytes password)
          salt with
      | error reason => exact .inl ⟨_, rfl⟩
      | ok bytes => exact .inr ⟨⟨bytes⟩, rfl⟩

/-! ## What a derivation ends in -/

/-- No algorithm takes a longer salt than a nonce has room for. -/
theorem salt_saltLength (algorithm : Algorithm) :
    salt nonce algorithm.saltLength = .ok (nonce.toList.take 16) := rfl

variable {config}

/-- A cost that Argon2 does not take is refused, with nothing reported. -/
theorem deriveKey_of_parameters_error {e : Error} (h : config.parameters = .error e) :
    deriveKey password nonce config = ⟨[], .error e⟩ := by
  unfold deriveKey
  rw [salt_saltLength, Outcome.lift_ok_bind, h]
  rfl

/-- At any other cost a password that Argon2 takes has the key that Argon2 makes of it, at that cost,
with the first 16 bytes of the nonce. -/
theorem deriveKey_eq_of_hashable {p : Argon2.Parameters} {password : String}
    (h : config.parameters = .ok p) (hpassword : Hashable password) :
    deriveKey password nonce config = ⟨[.derivedKey config], .ok ⟨Argon2.hash
      config.algorithm.variant p (passwordBytes password) (nonce.toList.take 16)⟩⟩ := by
  have hderive : Argon2.derive config.algorithm.variant p (passwordBytes password)
        (nonce.toList.take 16) =
      .ok (Argon2.hash config.algorithm.variant p (passwordBytes password)
        (nonce.toList.take 16)) :=
    if_pos hpassword
  unfold deriveKey
  simp only [salt_saltLength, h, Outcome.lift_ok_bind, hderive]
  rfl

theorem deriveKey_of_hashable {p : Argon2.Parameters} {password : String}
    (h : config.parameters = .ok p) (hpassword : Hashable password) :
    ∃ key, deriveKey password nonce config = ⟨[.derivedKey config], .ok key⟩ :=
  ⟨_, deriveKey_eq_of_hashable nonce h hpassword⟩

/-- And a password that it does not take is refused, with nothing reported. -/
theorem deriveKey_of_not_hashable {p : Argon2.Parameters} {password : String}
    (h : config.parameters = .ok p) (hpassword : ¬Hashable password) :
    deriveKey password nonce config =
      ⟨[], .error (.backend "password hashing" "password is too long")⟩ := by
  have hderive : Argon2.derive config.algorithm.variant p (passwordBytes password)
      (nonce.toList.take 16) = .error "password is too long" :=
    if_neg hpassword
  unfold deriveKey
  simp only [salt_saltLength, h, Outcome.lift_ok_bind, hderive]
  rfl

variable {password}

/-- A configuration that is not valid is refused, with nothing reported. -/
theorem deriveKey_of_validate_error {e : Error} (h : config.validate = .error e) :
    deriveKey password nonce config = ⟨[], .error e⟩ := by
  refine deriveKey_of_parameters_error password nonce ?_
  rw [Config.parameters, h]
  rfl

/-- Under a valid configuration every password that Argon2 takes has its key. -/
theorem deriveKey_of_valid (hconfig : config.Valid) (hpassword : Hashable password) :
    ∃ key, deriveKey password nonce config = ⟨[.derivedKey config], .ok key⟩ :=
  deriveKey_of_hashable nonce (Config.parameters_of_valid hconfig) hpassword

variable {nonce}

/-- Under a valid configuration a derivation is refused by the algorithm behind it alone. -/
theorem deriveKey_eq_error {e : Error}
    (hconfig : config.Valid) (h : (deriveKey password nonce config).result = .error e) :
    ∃ operation reason, e = .backend operation reason := by
  unfold deriveKey at h
  rw [salt_saltLength, Config.parameters_of_valid hconfig, Outcome.lift_ok_bind,
    Outcome.lift_ok_bind] at h
  split at h
  · cases h
    exact ⟨_, _, rfl⟩
  · cases h

end Sealing.Kdf
