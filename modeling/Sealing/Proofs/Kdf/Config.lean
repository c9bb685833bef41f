import Sealing.Kdf.Config
import Sealing.Proofs.Outcome
/-!
# The configurations that there are

`Config.validate` accepts the configurations that are `Config.Valid`, and `Config.new` makes these
and no others.  The configuration of a security level is one of them, so that whichever way a
configuration is obtained, it is valid, and every valid one can be obtained.
-/

namespace Sealing.Kdf

theorem checkRange_eq_ok_iff {what : String} {value min max : Nat} {u : Unit} :
    checkRange what value min max = .ok u ↔ min ≤ value ∧ value ≤ max := by
  unfold checkRange
  split
  · rename_i h
    exact ⟨fun _ => h, fun _ => rfl⟩
  · rename_i h
    constructor
    · intro he
      cases he
    · intro hr
      exact absurd hr h

theorem checkRange_eq_error {what : String} {value min max : Nat} {e : Error}
    (h : checkRange what value min max = .error e) : e = .invalidLimit what value min max := by
  unfold checkRange at h
  split at h
  · cases h
  · cases h
    rfl

namespace Config

theorem validate_eq_ok_iff {c : Config} {u : Unit} : c.validate = .ok u ↔ c.Valid := by
  have kib : (if c.memLimit % 1024 ≠ 0 then
      let limit := c.memLimit
      throw (Error.invalidInput s!"mem limit {limit} is not a whole number of KiB")
      else pure () : Except Error Unit) = .ok u ↔ c.memLimit % 1024 = 0 := by
    by_cases h : c.memLimit % 1024 = 0
    · simp only [h, ne_eq, not_true, if_false, iff_true]
      rfl
    · simp only [h, ne_eq, not_false_eq_true, if_true, iff_false]
      intro he
      cases he
  unfold validate Valid
  simp only [Except.bind_eq_ok_iff, checkRange_eq_ok_iff, kib]
  constructor
  · rintro ⟨-, hops, -, hmem, hkib⟩
    exact ⟨hops, hmem, hkib⟩
  · rintro ⟨hops, hmem, hkib⟩
    exact ⟨(), hops, (), hmem, hkib⟩

theorem new_eq_ok_iff {algorithm : Algorithm} {opsLimit memLimit : Nat} {c : Config} :
    new algorithm opsLimit memLimit = .ok c ↔ c = ⟨algorithm, opsLimit, memLimit⟩ ∧ c.Valid := by
  unfold new
  rw [Except.bind_eq_ok_iff]
  constructor
  · rintro ⟨u, hvalid, he⟩
    cases he
    exact ⟨rfl, validate_eq_ok_iff.mp hvalid⟩
  · rintro ⟨rfl, hvalid⟩
    exact ⟨(), validate_eq_ok_iff.mpr hvalid, rfl⟩

theorem preset_valid (level : SecurityLevel) (algorithm : Algorithm) :
    (preset level algorithm).Valid := by
  cases level <;> cases algorithm <;> decide

/-- A configuration costs no more than a level if both of its limits are no higher. -/
theorem checkCeiling_eq_ok_iff {c : Config} {level : SecurityLevel} {u : Unit} :
    c.checkCeiling level = .ok u ↔
      (c.algorithm.opsMin ≤ c.opsLimit ∧ c.opsLimit ≤ level.ops c.algorithm) ∧
      (c.algorithm.memMin ≤ c.memLimit ∧ c.memLimit ≤ level.mem c.algorithm) := by
  unfold checkCeiling
  simp only [Except.bind_eq_ok_iff, checkRange_eq_ok_iff]
  constructor
  · rintro ⟨-, hops, hmem⟩
    exact ⟨hops, hmem⟩
  · rintro ⟨hops, hmem⟩
    exact ⟨(), hops, hmem⟩

/-! ## Configurations that are refused -/

/-- Both limits are within the bounds of the algorithm, and the memory is not whole KiB. -/
def Fractional (c : Config) : Prop :=
  (c.algorithm.opsMin ≤ c.opsLimit ∧ c.opsLimit ≤ c.algorithm.opsMax) ∧
  (c.algorithm.memMin ≤ c.memLimit ∧ c.memLimit ≤ c.algorithm.memMax) ∧
  c.memLimit % 1024 ≠ 0

theorem checkCeiling_eq_error {c : Config} {level : SecurityLevel} {e : Error}
    (h : c.checkCeiling level = .error e) :
    ∃ what value min max, e = .invalidLimit what value min max := by
  unfold checkCeiling at h
  rcases Except.bind_eq_error_iff.mp h with h | ⟨_, -, h⟩
  · exact ⟨_, _, _, _, checkRange_eq_error h⟩
  · exact ⟨_, _, _, _, checkRange_eq_error h⟩

/-- A configuration is refused for a limit out of range, or for the part of a KiB that is left. -/
theorem validate_eq_error {c : Config} {e : Error} (h : c.validate = .error e) :
    (∃ what value min max, e = .invalidLimit what value min max) ∨
      c.Fractional ∧ ∃ reason, e = .invalidInput reason := by
  unfold validate at h
  rcases Except.bind_eq_error_iff.mp h with h | ⟨_, hops, h⟩
  · exact .inl ⟨_, _, _, _, checkRange_eq_error h⟩
  rcases Except.bind_eq_error_iff.mp h with h | ⟨_, hmem, h⟩
  · exact .inl ⟨_, _, _, _, checkRange_eq_error h⟩
  split at h
  · rename_i hkib
    cases h
    exact .inr ⟨⟨checkRange_eq_ok_iff.mp hops, checkRange_eq_ok_iff.mp hmem, hkib⟩, _, rfl⟩
  · cases h

theorem validate_of_fractional {c : Config} (h : c.Fractional) :
    ∃ reason, c.validate = .error (.invalidInput reason) := by
  obtain ⟨hops, hmem, hkib⟩ := h
  have hopsOk : checkRange "ops limit" c.opsLimit c.algorithm.opsMin c.algorithm.opsMax = .ok () :=
    checkRange_eq_ok_iff.mpr hops
  have hmemOk : checkRange "mem limit" c.memLimit c.algorithm.memMin c.algorithm.memMax = .ok () :=
    checkRange_eq_ok_iff.mpr hmem
  unfold validate
  rw [hopsOk, Except.ok_bind, hmemOk, Except.ok_bind, if_pos hkib]
  exact ⟨_, rfl⟩

/-! ## Words of 64 bits and of 32 bits

Limits are given and written as words of 64 bits, and handed to Argon2 as words of 32 bits, the
memory in units of 1024 bytes; those of a valid configuration fit into both. -/

section
variable {c : Config} (h : c.Valid)
include h

theorem Valid.opsLimit_lt : c.opsLimit < UInt64.size := by
  have hmax : c.opsLimit ≤ 4294967295 := h.1.2
  exact Nat.lt_of_le_of_lt hmax (by decide)

theorem Valid.memLimit_lt : c.memLimit < UInt64.size := by
  have hmax : c.memLimit ≤ 4294967295 * 1024 := h.2.1.2
  exact Nat.lt_of_le_of_lt hmax (by decide)

theorem Valid.passes_lt : c.opsLimit < UInt32.size :=
  Nat.lt_succ_of_le h.1.2

theorem Valid.blocks_lt : c.memLimit / 1024 < UInt32.size := by
  have hmax : c.memLimit ≤ 4294967295 * 1024 := h.2.1.2
  have hsize : UInt32.size = 4294967296 := rfl
  omega

/-- The least cost of either algorithm is one that Argon2 takes. -/
theorem Valid.one_le_passes : 1 ≤ c.opsLimit := by
  have hmin : 1 ≤ c.algorithm.opsMin := by cases c.algorithm <;> decide
  exact Nat.le_trans hmin h.1.1

theorem Valid.eight_le_blocks : 8 ≤ c.memLimit / 1024 := by
  have hmin : 8 * 1024 ≤ c.memLimit := h.2.1.1
  omega

end

/-! ## Ways to a configuration -/

/-- The configurations that callers can come by: of limits of their own choice in words of 64 bits,
of a level, or the standard one. -/
inductive Obtainable : Config → Prop where
  | new {algorithm : Algorithm} {opsLimit memLimit : Nat} {c : Config}
      (ops_lt : opsLimit < UInt64.size) (mem_lt : memLimit < UInt64.size)
      (made : Config.new algorithm opsLimit memLimit = .ok c) : Obtainable c
  | preset (level : SecurityLevel) (algorithm : Algorithm) :
      Obtainable (Config.preset level algorithm)
  | standard : Obtainable Config.standard

theorem obtainable_iff_valid {c : Config} : c.Obtainable ↔ c.Valid := by
  constructor
  · intro h
    cases h with
    | new _ _ made => exact (new_eq_ok_iff.mp made).2
    | preset level algorithm => exact preset_valid level algorithm
    | standard => exact preset_valid ..
  · intro h
    exact .new h.opsLimit_lt h.memLimit_lt (new_eq_ok_iff.mpr ⟨rfl, h⟩)

end Config

end Sealing.Kdf
