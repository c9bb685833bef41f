import Sealing.LittleEndian
import Sealing.Words
/-!
# BLAKE2b

The hash function without a key, for digests of up to 64 bytes.
-/

namespace Sealing.Hash.Blake2b

open Words

/-- The chaining value: eight words. -/
abbrev Chain := Vector UInt64 8

abbrev Work := Vector UInt64 16

def initial : Chain := #v[
  0x6a09e667f3bcc908, 0xbb67ae8584caa73b, 0x3c6ef372fe94f82b, 0xa54ff53a5f1d36f1,
  0x510e527fade682d1, 0x9b05688c2b3e6c1f, 0x1f83d9abfb41bd6b, 0x5be0cd19137e2179]

/-- The order in which each round takes the words of the block.  Twelve rounds run, the last two
with the first two orders again. -/
def schedule : List (Vector (Fin 16) 16) := [
  #v[0, 1, 2, 3, 4, 5, 6, 7, 8, 9, 10, 11, 12, 13, 14, 15],
  #v[14, 10, 4, 8, 9, 15, 13, 6, 1, 12, 0, 2, 11, 7, 5, 3],
  #v[11, 8, 12, 0, 5, 2, 15, 13, 10, 14, 3, 6, 7, 1, 9, 4],
  #v[7, 9, 3, 1, 13, 12, 11, 14, 2, 6, 5, 10, 4, 0, 15, 8],
  #v[9, 0, 5, 7, 2, 4, 10, 15, 14, 1, 11, 12, 6, 8, 3, 13],
  #v[2, 12, 6, 10, 0, 11, 8, 3, 4, 13, 7, 5, 15, 14, 1, 9],
  #v[12, 5, 1, 15, 14, 13, 4, 10, 0, 7, 6, 3, 9, 2, 8, 11],
  #v[13, 11, 7, 14, 12, 1, 3, 9, 5, 0, 15, 4, 8, 6, 2, 10],
  #v[6, 15, 14, 9, 11, 3, 0, 8, 12, 2, 13, 7, 1, 4, 10, 5],
  #v[10, 2, 8, 4, 7, 6, 1, 5, 15, 11, 9, 14, 3, 12, 13, 0],
  #v[0, 1, 2, 3, 4, 5, 6, 7, 8, 9, 10, 11, 12, 13, 14, 15],
  #v[14, 10, 4, 8, 9, 15, 13, 6, 1, 12, 0, 2, 11, 7, 5, 3]]

/-- Mixes two words of the block into four words of the working vector. -/
def mix (w : Work) (a b c d : Fin 16) (x y : UInt64) : Work :=
  let va := w.get a + w.get b + x
  let vd := rotateRight (w.get d ^^^ va) 32
  let vc := w.get c + vd
  let vb := rotateRight (w.get b ^^^ vc) 24
  let va := va + vb + y
  let vd := rotateRight (vd ^^^ va) 16
  let vc := vc + vd
  let vb := rotateRight (vb ^^^ vc) 63
  put (put (put (put w a va) b vb) c vc) d vd

/-- One round: the four columns of the working vector, then its four diagonals. -/
def round (block : Work) (w : Work) (order : Vector (Fin 16) 16) : Work :=
  let w := mix w 0 4 8 12 block[order[0]] block[order[1]]
  let w := mix w 1 5 9 13 block[order[2]] block[order[3]]
  let w := mix w 2 6 10 14 block[order[4]] block[order[5]]
  let w := mix w 3 7 11 15 block[order[6]] block[order[7]]
  let w := mix w 0 5 10 15 block[order[8]] block[order[9]]
  let w := mix w 1 6 11 12 block[order[10]] block[order[11]]
  let w := mix w 2 7 8 13 block[order[12]] block[order[13]]
  mix w 3 4 9 14 block[order[14]] block[order[15]]

/-- The words of a block of at most 128 bytes, which zeros fill up. -/
def blockWords (bytes : List UInt8) : Work :=
  Vector.ofFn fun i => UInt64.ofNat (LittleEndian.decode ((bytes.drop (8 * i.val)).take 8))

/-- Mixes a block into the chaining value.  `count` is the number of input bytes up to the end of
the block, and `last` marks the final one. -/
def compress (chain : Chain) (bytes : List UInt8) (count : Nat) (last : Bool) : Chain :=
  let block := blockWords bytes
  let work : Work := chain ++ initial
  let work := work.set 12 (work[12] ^^^ UInt64.ofNat count)
  let work := work.set 13 (work[13] ^^^ UInt64.ofNat (count / 0x10000000000000000))
  let work := if last then work.set 14 (work[14] ^^^ 0xffffffffffffffff) else work
  let work := schedule.foldl (round block) work
  Vector.ofFn fun i => chain[i] ^^^ work[i.val] ^^^ work[i.val + 8]

/-- Mixes the rest of an input into the chaining value, block by block; the final block is the one
that leaves nothing behind it. -/
def absorb (chain : Chain) (count : Nat) (input : List UInt8) : Chain :=
  if (input.drop 128).isEmpty then compress chain input (count + input.length) true
  else absorb (compress chain (input.take 128) (count + 128) false) (count + 128) (input.drop 128)
termination_by input.length
decreasing_by simp_all only [List.isEmpty_iff, List.drop_eq_nil_iff, List.length_drop]; omega

/-- The digest of `length` bytes, at most 64. -/
def hash (length : Nat) (input : List UInt8) : List UInt8 :=
  let start := initial.set 0 (initial[0] ^^^ 0x01010000 ^^^ UInt64.ofNat length)
  let chain := absorb start 0 input
  (chain.toList.flatMap fun word => LittleEndian.encode 8 word.toNat).take length

theorem length_hash (length : Nat) (input : List UInt8) :
    (hash length input).length = min length 64 := by
  simp [hash, List.length_flatMap, List.map_const']

end Sealing.Hash.Blake2b
