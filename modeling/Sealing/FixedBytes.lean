import Sealing.Error
/-!
# Bytes of a fixed length

Keys, nonces and tags are byte strings whose length is part of their type.  `FixedBytes.ofList` is
the one way in for bytes from outside; it refuses every other length.  `FixedBytes.describe` shows
the length and never the content.
-/

namespace Sealing

/-- A string of exactly `n` bytes. -/
structure FixedBytes (n : Nat) where
  toList : List UInt8
  length_toList : toList.length = n
deriving DecidableEq

namespace FixedBytes

attribute [simp] length_toList

variable {n : Nat}

theorem toList_inj {a b : FixedBytes n} : a.toList = b.toList ↔ a = b := by
  cases a
  cases b
  simp

/-- Reads bytes that must be `n` long; `what` names them in the error. -/
def ofList (n : Nat) (what : String) (bytes : List UInt8) : Except Error (FixedBytes n) :=
  if h : bytes.length = n then .ok ⟨bytes, h⟩
  else .error (.invalidLength what n bytes.length)

theorem ofList_toList (what : String) (a : FixedBytes n) : ofList n what a.toList = .ok a := by
  simp [ofList]

theorem ofList_eq_ok_iff {what : String} {bytes : List UInt8} {a : FixedBytes n} :
    ofList n what bytes = .ok a ↔ a.toList = bytes := by
  unfold ofList
  split
  · rw [Except.ok.injEq, ← toList_inj, eq_comm]
  · rename_i h
    constructor
    · intro e
      cases e
    · intro e
      exact absurd (e ▸ a.length_toList) h

/-- The string of `n` zero bytes. -/
def zero (n : Nat) : FixedBytes n :=
  ⟨List.replicate n 0, List.length_replicate⟩

/-- The text for diagnosis: the length and no content. -/
def describe (_ : FixedBytes n) : String :=
  Text.record "SecureBuffer" [("len", toString n), ("bytes", Text.quoted "[REDACTED]")]

end FixedBytes

end Sealing
