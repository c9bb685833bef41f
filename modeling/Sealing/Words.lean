/-!
# Words in their places

Ciphers and hashes mix vectors of words.  A place in a vector is a number below its length, so that
no place is ever missed; a word is read with `Vector.get` and written with `put`.
-/

namespace Sealing.Words

/-- Sixteen is not zero, so that a numeral names a place among sixteen words. -/
instance neZero_sixteen : @NeZero Nat Zero.ofOfNat0 16 := ⟨by decide⟩

variable {α : Type} {n : Nat}

/-- The vector with a word written to a place. -/
@[inline] def put (v : Vector α n) (i : Fin n) (x : α) : Vector α n :=
  v.set i.val x i.isLt

/-- Rotation of a word of 64 bits to the right. -/
@[inline] def rotateRight (x k : UInt64) : UInt64 :=
  (x >>> k) ||| (x <<< (64 - k))

end Sealing.Words
