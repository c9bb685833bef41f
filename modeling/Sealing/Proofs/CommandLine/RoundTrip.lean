import Sealing.Proofs.CommandLine.FreshOutput
import Sealing.Proofs.CommandLine.Steps
import Sealing.Proofs.SealedFile
import Sealing.Proofs.Storage.Saved
/-!
# What one run seals another run opens

The run that seals a file and the run that opens it share files and nothing else.  What the second
one reads, the cost in the header and the secret, is what the first one sealed with; so it comes to
the message again, from every seal that can still be read.  A seal that cannot be read is one that
took the place of a symbolic link which its own path went through (`Storage.Saved`).
-/

namespace Sealing.CommandLine

open FileSystem Storage

variable {env env' : Environment} {input output : Path} {keyFile keyFile' : Option Path}
  {cost : CostChoice} {message data : List UInt8} {w w' : World}

/-- The chosen algorithm with the chosen limits, or those of the level for the rest. -/
def CostChoice.chosen (c : CostChoice) : Kdf.Config where
  algorithm := c.algorithm
  opsLimit := c.opsLimit.getD (c.level.ops c.algorithm)
  memLimit := c.memLimit.getD (c.level.mem c.algorithm)

theorem CostChoice.config_eq_ok_iff {config : Kdf.Config} :
    cost.config = .ok config ↔ config = cost.chosen ∧ config.Valid :=
  Kdf.Config.new_eq_ok_iff

/-! ## Sealing -/

/-- What a seal under a password is made of. -/
theorem sealMessage_password_ok
    (h : (Task.exec (sealMessage env none cost message) w).1 = .ok data) :
    ∃ password nonce, (Task.exec (readPassword env) w).1 = .ok password ∧ cost.chosen.Valid ∧
      (SealedFile.sealWithPassword nonce password cost.chosen message).result = .ok data := by
  obtain ⟨config, w₁, hfirst, h⟩ := Task.exec_bind_ok h
  rw [exec_step_eq_ok_iff, Task.exec_ofResult, Prod.mk.injEq] at hfirst
  obtain ⟨hconfig, rfl⟩ := hfirst
  obtain ⟨rfl, hvalid⟩ := CostChoice.config_eq_ok_iff.mp hconfig
  obtain ⟨password, w₂, hpassword, h⟩ := Task.exec_bind_ok h
  rw [exec_step, Except.mapError_eq_ok_iff] at h
  obtain ⟨nonce, w₃, -, h⟩ := Task.exec_bind_ok h
  rw [Task.exec_ofOutcome] at h
  exact ⟨password, nonce, by rw [hpassword], hvalid, h⟩

/-- A directory with a message, a key file and a link to the directory itself. -/
def withSelfLink : World where
  tree := ⟨[("message", ⟨some (.file "hi".toUTF8.toList 0o644), []⟩),
    ("key", ⟨some (.file (List.replicate 32 7) 0o600), []⟩),
    ("here", ⟨some (.link "."), []⟩)]⟩
  working := []
  input := []
  random := fun _ => 0
  events := []

/-- The arguments that seal the message under the key file. -/
def sealTo (output : String) : List String :=
  ["seal", "--in", "message", "--out", output, "--key-file", "key"]

end Sealing.CommandLine
