import Sealing.LittleEndian
import Sealing.Words
/-!
# Memory blocks of Argon2

A block is 1024 bytes, held as 128 words.  `Block.compress` is the function that fills the memory:
the exclusive or of two blocks, permuted row by row and column by column, and combined with itself.
-/

namespace Sealing.Kdf.Argon2

open Words

abbrev Block := Vector UInt64 128

namespace Block

def zero : Block := Vector.replicate 128 0

/-- Word by word exclusive or. -/
def xor (a b : Block) : Block := Vector.zipWith (· ^^^ ·) a b

def ofBytes (bytes : List UInt8) : Block :=
  Vector.ofFn fun i => UInt64.ofNat (LittleEndian.decode ((bytes.drop (8 * i.val)).take 8))

def toBytes (block : Block) : List UInt8 :=
  block.toList.flatMap fun word => LittleEndian.encode 8 word.toNat

/-- The sum of two words and twice the product of their lower halves. -/
@[inline] def addMul (x y : UInt64) : UInt64 :=
  x + y + 2 * (x &&& 0xffffffff) * (y &&& 0xffffffff)

/-- Mixes four words. -/
def mix (w : Block) (a b c d : Fin 128) : Block :=
  let va := addMul (w.get a) (w.get b)
  let vd := rotateRight (w.get d ^^^ va) 32
  let vc := addMul (w.get c) vd
  let vb := rotateRight (w.get b ^^^ vc) 24
  let va := addMul va vb
  let vd := rotateRight (vd ^^^ va) 16
  let vc := addMul vc vd
  let vb := rotateRight (vb ^^^ vc) 63
  put (put (put (put w a va) b vb) c vc) d vd

/-- Permutes the sixteen words at the given places. -/
@[inline] def permute (w : Block) (place : Fin 16 → Fin 128) : Block :=
  let w := mix w (place 0) (place 4) (place 8) (place 12)
  let w := mix w (place 1) (place 5) (place 9) (place 13)
  let w := mix w (place 2) (place 6) (place 10) (place 14)
  let w := mix w (place 3) (place 7) (place 11) (place 15)
  let w := mix w (place 0) (place 5) (place 10) (place 15)
  let w := mix w (place 1) (place 6) (place 11) (place 12)
  let w := mix w (place 2) (place 7) (place 8) (place 13)
  mix w (place 3) (place 4) (place 9) (place 14)

/-- Row `r` of the block seen as eight rows of sixteen words. -/
@[inline] def row (r : Fin 8) (i : Fin 16) : Fin 128 :=
  ⟨16 * r.val + i.val, by omega⟩

/-- Column `c` of the block seen as eight columns, two words wide and eight rows high. -/
@[inline] def column (c : Fin 8) (i : Fin 16) : Fin 128 :=
  ⟨16 * (i.val / 2) + 2 * c.val + i.val % 2, by omega⟩

def eight : List (Fin 8) := [0, 1, 2, 3, 4, 5, 6, 7]

def compress (a b : Block) : Block :=
  let start := xor a b
  let w := eight.foldl (fun w r => permute w (row r)) start
  let w := eight.foldl (fun w c => permute w (column c)) w
  xor w start

end Block

end Sealing.Kdf.Argon2
