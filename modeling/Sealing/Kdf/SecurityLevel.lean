import Sealing.Kdf.Algorithm
/-!
# Security levels

Named costs.  A level sets the passes and the memory for each algorithm.
-/

namespace Sealing.Kdf

inductive SecurityLevel where
  /-- Fast enough to wait for at a prompt. -/
  | interactive
  /-- The level for those who have no reason to choose another one. -/
  | moderate
  /-- For long-lived secrets, where seconds of work are acceptable. -/
  | sensitive
deriving DecidableEq, Repr

namespace SecurityLevel

/-- All levels, cheapest first. -/
def all : List SecurityLevel := [interactive, moderate, sensitive]

/-- The level where none is chosen. -/
def standard : SecurityLevel := moderate

/-- The highest cost that a sealed file may ask for.  A header is written by whoever sends the file,
so that a higher cost is refused before any work is done. -/
def highest : SecurityLevel := sensitive

def name : SecurityLevel → String
  | interactive => "interactive"
  | moderate => "moderate"
  | sensitive => "sensitive"

/-- Reads a name; the letters A to Z may stand for a to z. -/
def ofName (s : String) : Except Error SecurityLevel :=
  match all.find? (·.name = s.map Char.toLower) with
  | some level => .ok level
  | none =>
    .error (.invalidInput
      s!"unknown security level '{s}' (expected interactive, moderate or sensitive)")

def describe : SecurityLevel → String
  | interactive => "Interactive"
  | moderate => "Moderate"
  | sensitive => "Sensitive"

/-- The JSON form is the name. -/
def toJson (level : SecurityLevel) : Json := .string level.name

def ofJson : Json → Except Json.ChoiceError SecurityLevel :=
  Json.toChoice (all.map fun l => (l.name, l))

def ops : SecurityLevel → Algorithm → Nat
  | interactive, .argon2id13 => 2
  | moderate, .argon2id13 => 3
  | sensitive, .argon2id13 => 4
  | interactive, .argon2i13 => 4
  | moderate, .argon2i13 => 6
  | sensitive, .argon2i13 => 8

def mem : SecurityLevel → Algorithm → Nat
  | interactive, .argon2id13 => 64 * 1048576
  | moderate, .argon2id13 => 256 * 1048576
  | sensitive, .argon2id13 => 1024 * 1048576
  | interactive, .argon2i13 => 32 * 1048576
  | moderate, .argon2i13 => 128 * 1048576
  | sensitive, .argon2i13 => 512 * 1048576

end SecurityLevel

end Sealing.Kdf
