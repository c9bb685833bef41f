import Sealing.Kdf.Argon2
import Sealing.Kdf.SecurityLevel
/-!
# Derivation costs

A configuration is an algorithm with the passes and the memory to spend, memory in bytes.
`Config.new` and `Config.preset` make the valid ones, `Config.checkCeiling` compares a cost with a
security level, and `Config.parameters` is the cost in the units of Argon2.
-/

namespace Sealing.Kdf

/-- What to spend on deriving a key, and with which algorithm. -/
structure Config where
  algorithm : Algorithm
  opsLimit : Nat
  memLimit : Nat
deriving DecidableEq, Repr

/-- Refuses a limit outside its range. -/
def checkRange (what : String) (value min max : Nat) : Except Error Unit :=
  if min ≤ value ∧ value ≤ max then .ok () else .error (.invalidLimit what value min max)

namespace Config

/-- Both limits are within the bounds of the algorithm, and the memory is whole KiB. -/
def Valid (c : Config) : Prop :=
  (c.algorithm.opsMin ≤ c.opsLimit ∧ c.opsLimit ≤ c.algorithm.opsMax) ∧
  (c.algorithm.memMin ≤ c.memLimit ∧ c.memLimit ≤ c.algorithm.memMax) ∧
  c.memLimit % 1024 = 0

instance (c : Config) : Decidable c.Valid :=
  inferInstanceAs (Decidable (_ ∧ _ ∧ _))

/-- Refuses an invalid configuration: the passes are checked first, then the memory. -/
def validate (c : Config) : Except Error Unit := do
  checkRange "ops limit" c.opsLimit c.algorithm.opsMin c.algorithm.opsMax
  checkRange "mem limit" c.memLimit c.algorithm.memMin c.algorithm.memMax
  if c.memLimit % 1024 ≠ 0 then
    let limit := c.memLimit
    throw (.invalidInput s!"mem limit {limit} is not a whole number of KiB")

def new (algorithm : Algorithm) (opsLimit memLimit : Nat) : Except Error Config := do
  let c : Config := ⟨algorithm, opsLimit, memLimit⟩
  c.validate
  return c

/-- The configuration of a security level. -/
def preset (level : SecurityLevel) (algorithm : Algorithm) : Config :=
  ⟨algorithm, level.ops algorithm, level.mem algorithm⟩

/-- The configuration for those who have no reason to choose another one. -/
def standard : Config := preset .standard .recommended

/-- Refuses a configuration that costs more than a security level, or less than the algorithm
takes. -/
def checkCeiling (c : Config) (level : SecurityLevel) : Except Error Unit := do
  checkRange "ops limit" c.opsLimit c.algorithm.opsMin (level.ops c.algorithm)
  checkRange "mem limit" c.memLimit c.algorithm.memMin (level.mem c.algorithm)

def toJson (c : Config) : Json :=
  .object [("algorithm", c.algorithm.toJson), ("ops_limit", .integer c.opsLimit),
    ("mem_limit", .integer c.memLimit)]

def describe (c : Config) : String :=
  Text.record "PasswordConfig" [("algorithm", c.algorithm.describe),
    ("ops_limit", toString c.opsLimit), ("mem_limit", toString c.memLimit)]

/-- A number as a word of 32 bits. -/
private def word32 (n : Nat) : Except Error UInt32 :=
  if n < UInt32.size then .ok (UInt32.ofNat n)
  else .error (.backend "argon2 params" "out of range integral type conversion attempted")

/-- The cost in the units of Argon2. -/
def parameters (c : Config) : Except Error Argon2.Parameters := do
  c.validate
  let passes ← word32 c.opsLimit
  let memory ← word32 (c.memLimit / 1024)
  match Argon2.Parameters.check ⟨memory, passes⟩ with
  | .ok p => return p
  | .error reason => throw (.backend "argon2 params" reason)

/-- Numbers that fit into words of 32 bits are handed to Argon2 as they are. -/
theorem parameters_of_lt {c : Config} (hvalid : c.validate = .ok ())
    (hops : c.opsLimit < UInt32.size) (hmem : c.memLimit / 1024 < UInt32.size)
    (hcheck : Argon2.Parameters.check ⟨.ofNat (c.memLimit / 1024), .ofNat c.opsLimit⟩ =
      .ok ⟨.ofNat (c.memLimit / 1024), .ofNat c.opsLimit⟩) :
    c.parameters = .ok ⟨.ofNat (c.memLimit / 1024), .ofNat c.opsLimit⟩ := by
  unfold parameters word32
  rw [hvalid, if_pos hops, if_pos hmem]
  show (match Argon2.Parameters.check _ with | .ok p => _ | .error _ => _) = _
  rw [hcheck]
  rfl

end Config

/-- The Argon2 variant behind an algorithm. -/
def Algorithm.variant : Algorithm → Argon2.Variant
  | argon2i13 => .i
  | argon2id13 => .id

end Sealing.Kdf
