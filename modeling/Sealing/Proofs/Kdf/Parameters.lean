import Sealing.Proofs.Envelope
import Sealing.Proofs.Kdf.Derive
/-!
# Costs in the units of Argon2

A configuration says its cost in passes and bytes, Argon2 takes passes and units of 1024 bytes, both
in words of 32 bits.  `Config.parameters_eq_ok_iff` says that exactly the valid configurations have
such a cost, and that nothing is rounded or cut off on the way.  Callers and sealed files give no
other configurations than these, so that a derivation can only fail for the length of its password.
-/

namespace Sealing.Kdf

namespace Config

/-! ## Configurations that a derivation can be asked for -/

/-- The configurations that a derivation can be asked for: those that callers come by, and those
that stand in the header of a sealed file. -/
inductive Reachable : Config → Prop where
  | obtained {c : Config} (obtainable : Obtainable c) : Reachable c
  | named {data : List UInt8} {e : Envelope} {c : Config}
      (decoded : Envelope.decode data = .ok e) (kdf : e.kdf = some c) : Reachable c

/-- They are the valid ones: a header is checked as the limits of a caller are. -/
theorem reachable_iff_valid {c : Config} : c.Reachable ↔ c.Valid := by
  constructor
  · intro h
    cases h with
    | obtained obtainable => exact obtainable_iff_valid.mp obtainable
    | named decoded kdf =>
      have hwellFormed : Envelope.WellFormed _ := (Envelope.decode_eq_ok_iff.mp decoded).1
      exact hwellFormed.2.1 c kdf
  · intro h
    exact .obtained (obtainable_iff_valid.mpr h)

/-! ## Their costs -/

/-- The cost in the units of Argon2 is the whole cost: as many passes, and as many bytes. -/
def Exact (c : Config) (p : Argon2.Parameters) : Prop :=
  p.passes.toNat = c.opsLimit ∧ 1024 * p.memory.toNat = c.memLimit

/-- Words of 32 bits that stand for the same cost are the same. -/
theorem Exact.unique {c : Config} {p p' : Argon2.Parameters} (h : c.Exact p) (h' : c.Exact p') :
    p = p' := by
  obtain ⟨memory, passes⟩ := p
  obtain ⟨memory', passes'⟩ := p'
  obtain ⟨hpasses, hmemory⟩ := h
  obtain ⟨hpasses', hmemory'⟩ := h'
  simp only at hpasses hmemory hpasses' hmemory'
  have hsame : passes = passes' := UInt32.toNat_inj.mp (hpasses.trans hpasses'.symm)
  have hblocks : memory = memory' := UInt32.toNat_inj.mp (by omega)
  rw [hsame, hblocks]

/-- And one such cost stands for no two configurations of an algorithm. -/
theorem Exact.eq_of_algorithm {c c' : Config} {p : Argon2.Parameters} (h : c.Exact p)
    (h' : c'.Exact p) (halgorithm : c.algorithm = c'.algorithm) : c = c' := by
  obtain ⟨algorithm, opsLimit, memLimit⟩ := c
  obtain ⟨algorithm', opsLimit', memLimit'⟩ := c'
  obtain ⟨hops, hmem⟩ := h
  obtain ⟨hops', hmem'⟩ := h'
  simp only at halgorithm hops hmem hops' hmem'
  rw [halgorithm, ← hops, ← hmem, ← hops', ← hmem']

/-- The cost of a valid configuration fits into words of 32 bits as it is. -/
theorem Valid.exact {c : Config} (h : c.Valid) :
    c.Exact ⟨.ofNat (c.memLimit / 1024), .ofNat c.opsLimit⟩ := by
  refine ⟨UInt32.toNat_ofNat_of_lt' h.passes_lt, ?_⟩
  rw [UInt32.toNat_ofNat_of_lt' h.blocks_lt]
  exact Nat.mul_div_cancel' (Nat.dvd_of_mod_eq_zero h.2.2)

/-- Argon2 is given a cost exactly for the valid configurations, and it is the whole cost. -/
theorem parameters_eq_ok_iff {c : Config} {p : Argon2.Parameters} :
    c.parameters = .ok p ↔ c.Valid ∧ c.Exact p := by
  constructor
  · intro h
    -- What is not valid is refused before a cost is made of it.
    have hvalid : c.Valid := by
      unfold parameters at h
      obtain ⟨u, hvalidate, -⟩ := Except.bind_eq_ok_iff.mp h
      exact validate_eq_ok_iff.mp hvalidate
    rw [parameters_of_valid hvalid, Except.ok.injEq] at h
    exact ⟨hvalid, h ▸ hvalid.exact⟩
  · rintro ⟨hvalid, hexact⟩
    rw [parameters_of_valid hvalid, hvalid.exact.unique hexact]

end Config

/-! ## Every configuration can be used -/

/-- Every configuration that a derivation can be asked for is valid; its cost is the one that Argon2
is given, no more and no less, so that no two of them share theirs; and every password of fewer than
`2 ^ 32` bytes has a key under it for every nonce, whatever else is given.  The limits that
`Config.new` accepts are the limits of these configurations. -/
theorem reachable_config_usable :
    (∀ c : Config, c.Reachable →
      c.validate = .ok () ∧
      (∃ p, c.parameters = .ok p ∧ p.passes.toNat = c.opsLimit ∧
        1024 * p.memory.toNat = c.memLimit ∧ 8 ≤ p.memory.toNat) ∧
      ∀ password nonce, (passwordBytes password).length < 2 ^ 32 →
        ∃ key, (deriveKey password nonce c).result = .ok key ∧ key.toList.length = 32) ∧
    (∀ c c' : Config, c.Reachable → c'.Reachable → c.algorithm = c'.algorithm →
      c.parameters = c'.parameters → c = c') ∧
    (∀ algorithm opsLimit memLimit,
      (∃ c, Config.new algorithm opsLimit memLimit = .ok c) ↔
        Config.Reachable ⟨algorithm, opsLimit, memLimit⟩) := by
  refine ⟨?usable, ?distinct, ?accepted⟩
  case usable =>
    intro c hc
    have hvalid : c.Valid := Config.reachable_iff_valid.mp hc
    have hexact := hvalid.exact
    have hmemory : 8 ≤ (UInt32.ofNat (c.memLimit / 1024)).toNat := by
      rw [UInt32.toNat_ofNat_of_lt' hvalid.blocks_lt]
      exact hvalid.eight_le_blocks
    refine ⟨Config.validate_eq_ok_iff.mpr hvalid, ⟨_, Config.parameters_of_valid hvalid,
      hexact.1, hexact.2, hmemory⟩, ?_⟩
    intro password nonce hpassword
    obtain ⟨key, hkey⟩ := deriveKey_of_valid nonce hvalid hpassword
    exact ⟨key, by rw [hkey], key.bytes.length_toList⟩
  case distinct =>
    intro c c' hc hc' halgorithm hsame
    have hvalid : c.Valid := Config.reachable_iff_valid.mp hc
    have hvalid' : c'.Valid := Config.reachable_iff_valid.mp hc'
    have hparameters : c'.parameters = .ok _ := hsame ▸ Config.parameters_of_valid hvalid
    exact hvalid.exact.eq_of_algorithm (Config.parameters_eq_ok_iff.mp hparameters).2 halgorithm
  case accepted =>
    intro algorithm opsLimit memLimit
    simp only [Config.new_eq_ok_iff, Config.reachable_iff_valid]
    constructor
    · rintro ⟨c, rfl, hvalid⟩
      exact hvalid
    · intro hvalid
      exact ⟨_, rfl, hvalid⟩

end Sealing.Kdf
