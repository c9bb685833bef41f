import Sealing.Json.Choice
import Sealing.Error
/-!
# Password hashing algorithms

The two Argon2 variants that a sealed file can name, with the limits that each sets on its cost.
The number of an algorithm is the one that stands in the header of a file.
-/

namespace Sealing.Kdf

inductive Algorithm where
  /-- Memory is addressed independently of the password. -/
  | argon2i13
  /-- The first half of the first pass is addressed as in `argon2i13`, the rest by content. -/
  | argon2id13
deriving DecidableEq, Repr

namespace Algorithm

/-- All algorithms, in the order of their numbers. -/
def all : List Algorithm := [argon2i13, argon2id13]

/-- The algorithm for those who have no reason to choose another one. -/
def recommended : Algorithm := argon2id13

/-- The number of the algorithm in a header. -/
def id : Algorithm → UInt8
  | argon2i13 => 1
  | argon2id13 => 2

def ofId? (n : UInt8) : Option Algorithm := all.find? (·.id = n)

def name : Algorithm → String
  | argon2i13 => "argon2i13"
  | argon2id13 => "argon2id13"

/-- Reads a name; the letters A to Z may stand for a to z. -/
def ofName (s : String) : Except Error Algorithm :=
  match all.find? (·.name = s.map Char.toLower) with
  | some algorithm => .ok algorithm
  | none =>
    .error (.invalidInput s!"unknown algorithm '{s}' (expected argon2id13 or argon2i13)")

def describe : Algorithm → String
  | argon2i13 => "Argon2i13"
  | argon2id13 => "Argon2id13"

/-- The JSON form is the name. -/
def toJson (algorithm : Algorithm) : Json := .string algorithm.name

def ofJson : Json → Except Json.ChoiceError Algorithm :=
  Json.toChoice (all.map fun a => (a.name, a))

/-! ## Limits -/

/-- The fewest passes.  With fewer than three, `argon2i13` gives way to attacks that trade time for
memory. -/
def opsMin : Algorithm → Nat
  | argon2i13 => 3
  | argon2id13 => 1

def opsMax (_ : Algorithm) : Nat := 4294967295

/-- The least memory in bytes. -/
def memMin (_ : Algorithm) : Nat := 8 * 1024

/-- The most memory in bytes. -/
def memMax (_ : Algorithm) : Nat := 4294967295 * 1024

/-- The length of the salt in bytes. -/
def saltLength (_ : Algorithm) : Nat := 16

end Algorithm

end Sealing.Kdf
