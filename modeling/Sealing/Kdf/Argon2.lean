import Sealing.Hash.Blake2b
import Sealing.Kdf.Argon2.Block
import Sealing.FixedBytes
/-!
# Argon2

The memory-hard password hash, version 0x13, with one lane and no secret or associated data.  The
memory is a row of blocks in four segments.  Each pass rewrites every block from the one before it
and from one earlier block, and the two variants differ in how that earlier block is chosen.
-/

namespace Sealing.Kdf.Argon2

/-- How the earlier block is chosen. -/
inductive Variant where
  /-- By counters alone. -/
  | i
  /-- By counters in the first half of the first pass, by content afterwards. -/
  | id
deriving DecidableEq, Repr

def Variant.number : Variant → Nat
  | i => 1
  | id => 2

/-- The cost: passes over the memory, and memory in units of 1024 bytes. -/
structure Parameters where
  memory : UInt32
  passes : UInt32
deriving DecidableEq, Repr

def Parameters.check (p : Parameters) : Except String Parameters :=
  if p.memory < 8 then .error "memory cost is too small"
  else if p.passes < 1 then .error "time cost is too small"
  else .ok p

/-- The length of the derived key in bytes. -/
def keyLength : Nat := 32

/-- Passwords must be shorter than this many bytes. -/
def passwordBound : Nat := 0x100000000

/-! ## Hashing to any length -/

/-- The hash chain behind `longHash`: `count` digests of 64 bytes, each of the one before it, of
which the first halves are kept, and then one digest of the bytes still missing. -/
def hashChain (rest : Nat) : (count : Nat) → List UInt8 → List UInt8
  | 0, digest => Hash.Blake2b.hash rest digest
  | count + 1, digest =>
    let next := Hash.Blake2b.hash 64 digest
    next.take 32 ++ hashChain rest count next

/-- A digest of any length. -/
def longHash (length : Nat) (input : List UInt8) : List UInt8 :=
  let input := LittleEndian.encode 4 length ++ input
  if length ≤ 64 then Hash.Blake2b.hash length input
  else
    let halves := (length + 31) / 32 - 2
    hashChain (length - 32 * halves) halves input

/-! ## Filling the memory -/

/-- The shape of the memory: segments of `segment` blocks, four to the row. -/
structure Layout where
  variant : Variant
  passes : Nat
  segment : Nat

namespace Layout

def size (l : Layout) : Nat := 4 * l.segment

/-- Whether a segment chooses earlier blocks by counters. -/
def byCounter (l : Layout) (pass slice : Nat) : Bool :=
  l.variant = .i || (pass = 0 && slice < 2)

/-- The block of 128 pseudo-random words that a segment uses from its block `128 * n` on. -/
def addresses (l : Layout) (pass slice n : Nat) : Block :=
  let input : Block := Vector.ofFn fun i =>
    UInt64.ofNat (match i.val with
      | 0 => pass
      | 1 => 0
      | 2 => slice
      | 3 => l.size
      | 4 => l.passes
      | 5 => l.variant.number
      | 6 => n + 1
      | _ => 0)
  Block.compress Block.zero (Block.compress Block.zero input)

/-- The block referred to by a pseudo-random word from block `index` of a segment: one of those that
are complete, the later ones more often. -/
def reference (l : Layout) (pass slice index : Nat) (random : UInt64) : Nat :=
  let complete :=
    if pass = 0 then slice * l.segment + index - 1 else l.size - l.segment + index - 1
  let low := (random &&& 0xffffffff).toNat
  let skipped := complete * (low * low / 0x100000000) / 0x100000000
  let start := if pass = 0 then 0 else (slice + 1) * l.segment
  (start + (complete - 1 - skipped)) % l.size

/-- Fills block `index` of a segment. -/
def fillBlock (l : Layout) (pass slice index : Nat) (random : UInt64) (memory : Array Block) :
    Array Block :=
  let place := slice * l.segment + index
  let previous := memory.getD ((place + l.size - 1) % l.size) Block.zero
  let earlier := memory.getD (l.reference pass slice index random) Block.zero
  let filled := Block.compress previous earlier
  let filled :=
    if pass = 0 then filled else Block.xor filled (memory.getD place Block.zero)
  memory.setIfInBounds place filled

/-- Fills `count` blocks of a segment from block `index` on.  `counters` holds the current block of
pseudo-random words where they come from counters. -/
def fillFrom (l : Layout) (pass slice : Nat) :
    (count index : Nat) → (counters : Block) → Array Block → Array Block
  | 0, _, _, memory => memory
  | count + 1, index, counters, memory =>
    if l.byCounter pass slice then
      let counters :=
        if index % 128 = 0 && index ≠ 0 then l.addresses pass slice (index / 128) else counters
      let random := counters.get ⟨index % 128, Nat.mod_lt _ (by decide)⟩
      l.fillFrom pass slice count (index + 1) counters (l.fillBlock pass slice index random memory)
    else
      let place := slice * l.segment + index
      let random := (memory.getD ((place + l.size - 1) % l.size) Block.zero)[0]
      l.fillFrom pass slice count (index + 1) counters (l.fillBlock pass slice index random memory)

/-- Fills a segment.  The first two blocks of the row stand before the first pass begins. -/
def fillSegment (l : Layout) (memory : Array Block) (pass slice : Nat) : Array Block :=
  let index := if pass = 0 && slice = 0 then 2 else 0
  let counters := if l.byCounter pass slice then l.addresses pass slice 0 else Block.zero
  l.fillFrom pass slice (l.segment - index) index counters memory

def fill (l : Layout) (memory : Array Block) : Array Block :=
  (List.range l.passes).foldl
    (fun memory pass => [0, 1, 2, 3].foldl (fun memory slice => l.fillSegment memory pass slice)
      memory)
    memory

end Layout

/-! ## The hash -/

/-- A field of the initial hash: its length and its bytes. -/
private def field (bytes : List UInt8) : List UInt8 :=
  LittleEndian.encode 4 bytes.length ++ bytes

/-- The digest of all inputs from which the first blocks are made. -/
def initialHash (variant : Variant) (p : Parameters) (password salt : List UInt8) :
    List UInt8 :=
  Hash.Blake2b.hash 64 <|
    LittleEndian.encode 4 1 ++ LittleEndian.encode 4 keyLength
      ++ LittleEndian.encode 4 p.memory.toNat ++ LittleEndian.encode 4 p.passes.toNat
      ++ LittleEndian.encode 4 0x13 ++ LittleEndian.encode 4 variant.number
      ++ field password ++ field salt ++ field [] ++ field []

/-- The last block once all passes are done. -/
def finalBlock (variant : Variant) (p : Parameters) (password salt : List UInt8) : Block :=
  let seed := initialHash variant p password salt
  let layout : Layout := ⟨variant, p.passes.toNat, p.memory.toNat / 4⟩
  let first (n : Nat) : Block :=
    Block.ofBytes (longHash 1024 (seed ++ LittleEndian.encode 4 n ++ LittleEndian.encode 4 0))
  let memory := Array.replicate layout.size Block.zero
  let memory := (memory.setIfInBounds 0 (first 0)).setIfInBounds 1 (first 1)
  (layout.fill memory).getD (layout.size - 1) Block.zero

/-- The derived key. -/
def hash (variant : Variant) (p : Parameters) (password salt : List UInt8) :
    FixedBytes keyLength :=
  ⟨longHash keyLength (finalBlock variant p password salt).toBytes, by
    simp [longHash, keyLength, Hash.Blake2b.length_hash]⟩

/-- The derived key, unless the password is too long. -/
def derive (variant : Variant) (p : Parameters) (password salt : List UInt8) :
    Except String (FixedBytes keyLength) :=
  if password.length < passwordBound then .ok (hash variant p password salt)
  else .error "password is too long"

end Sealing.Kdf.Argon2
