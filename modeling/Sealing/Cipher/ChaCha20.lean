import Sealing.LittleEndian
import Sealing.Words
/-!
# ChaCha20

The stream cipher and its extension to nonces of 24 bytes.  A message is combined with a keystream
byte by byte; the keystream is a function of key, nonce and length alone, so that combining twice
gives the message back.
-/

namespace Sealing.Cipher.ChaCha20

open Words

abbrev State := Vector UInt32 16

@[inline] def rotateLeft (x k : UInt32) : UInt32 :=
  (x <<< k) ||| (x >>> (32 - k))

/-- Mixes four words of the state. -/
def quarterRound (s : State) (a b c d : Fin 16) : State :=
  let va := s.get a + s.get b
  let vd := rotateLeft (s.get d ^^^ va) 16
  let vc := s.get c + vd
  let vb := rotateLeft (s.get b ^^^ vc) 12
  let va := va + vb
  let vd := rotateLeft (vd ^^^ va) 8
  let vc := vc + vd
  let vb := rotateLeft (vb ^^^ vc) 7
  put (put (put (put s a va) b vb) c vc) d vd

/-- The four columns of the state, then its four diagonals. -/
def doubleRound (s : State) : State :=
  let s := quarterRound s 0 4 8 12
  let s := quarterRound s 1 5 9 13
  let s := quarterRound s 2 6 10 14
  let s := quarterRound s 3 7 11 15
  let s := quarterRound s 0 5 10 15
  let s := quarterRound s 1 6 11 12
  let s := quarterRound s 2 7 8 13
  quarterRound s 3 4 9 14

def rounds (s : State) : State :=
  Nat.repeat doubleRound 10 s

def wordAt (bytes : List UInt8) (i : Nat) : UInt32 :=
  UInt32.ofNat (LittleEndian.decode ((bytes.drop (4 * i)).take 4))

/-- The state made of the four constant words, a key of eight words and a tail of four. -/
def start (key tail : List UInt8) : State := #v[
  0x61707865, 0x3320646e, 0x79622d32, 0x6b206574,
  wordAt key 0, wordAt key 1, wordAt key 2, wordAt key 3,
  wordAt key 4, wordAt key 5, wordAt key 6, wordAt key 7,
  wordAt tail 0, wordAt tail 1, wordAt tail 2, wordAt tail 3]

def wordBytes (words : List UInt32) : List UInt8 :=
  words.flatMap fun word => LittleEndian.encode 4 word.toNat

@[simp] theorem length_wordBytes (words : List UInt32) :
    (wordBytes words).length = 4 * words.length := by
  simp [wordBytes, List.length_flatMap, List.map_const', Nat.mul_comm]

/-- Block `counter` of the keystream under a key of 32 bytes and a nonce of 8. -/
def block (key nonce : List UInt8) (counter : Nat) : List UInt8 :=
  let s := start key (LittleEndian.encode 8 counter ++ nonce)
  wordBytes (Vector.zipWith (· + ·) (rounds s) s).toList

@[simp] theorem length_block (key nonce : List UInt8) (counter : Nat) :
    (block key nonce counter).length = 64 := by
  simp [block]

/-- The key of 32 bytes that a key and sixteen bytes of nonce give. -/
def subkey (key nonce : List UInt8) : List UInt8 :=
  let s := rounds (start key nonce)
  wordBytes (s.toList.take 4 ++ s.toList.drop 12)

/-- Block `counter` of the keystream under a nonce of 24 bytes: its first sixteen make the key of
the message, the rest is the nonce under that key. -/
def extendedBlocks (key nonce : List UInt8) : Nat → List UInt8 :=
  let messageKey := subkey key (nonce.take 16)
  let rest := nonce.drop 16
  fun counter => block messageKey rest counter

@[simp] theorem length_extendedBlocks (key nonce : List UInt8) (counter : Nat) :
    (extendedBlocks key nonce counter).length = 64 := by
  simp [extendedBlocks]

/-- The first `length` bytes of the keystream from block `counter` on. -/
def keystream (blocks : Nat → List UInt8) (counter length : Nat) : List UInt8 :=
  ((List.range' counter ((length + 63) / 64)).flatMap blocks).take length

theorem length_keystream {blocks : Nat → List UInt8} (h : ∀ i, (blocks i).length = 64)
    (counter length : Nat) : (keystream blocks counter length).length = length := by
  simp only [keystream, List.length_take, List.length_flatMap, h, List.map_const',
    List.length_range', List.sum_replicate_nat]
  omega

/-- Combines a message with a keystream. -/
def combine (keystream message : List UInt8) : List UInt8 :=
  List.zipWith (· ^^^ ·) keystream message

theorem length_combine {keystream message : List UInt8}
    (h : keystream.length = message.length) :
    (combine keystream message).length = message.length := by
  simp [combine, h]

/-- Combining twice with the same keystream gives the message back. -/
theorem combine_combine {keystream message : List UInt8}
    (h : keystream.length = message.length) :
    combine keystream (combine keystream message) = message := by
  induction keystream generalizing message with
  | nil =>
    cases message with
    | nil => rfl
    | cons => simp at h
  | cons k ks ih =>
    cases message with
    | nil => simp at h
    | cons m ms =>
      have hlen : ks.length = ms.length := by simpa using h
      have hx : k ^^^ (k ^^^ m) = m := by
        rw [← UInt8.xor_assoc, UInt8.xor_self, UInt8.zero_xor]
      simp only [combine, List.zipWith_cons_cons, hx, List.cons.injEq, true_and]
      exact ih hlen

end Sealing.Cipher.ChaCha20
