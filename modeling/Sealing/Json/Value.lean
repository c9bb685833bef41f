import Sealing.Binary64.Shortest
/-!
# JSON values and their two texts

Objects keep their fields in the order in which they are given.  `Json.compact` writes a value
without blanks, `Json.pretty` with one item a line, two blanks for each level.
-/

namespace Sealing

/-- A JSON value.  A number is an integer or one of the format binary64. -/
inductive Json where
  | null
  | bool (value : Bool)
  | integer (value : Int)
  | binary64 (value : Binary64)
  | string (value : String)
  | array (items : List Json)
  | object (fields : List (String × Json))
deriving Repr, Inhabited

namespace Json

/-! ## Leaves -/

/-- A character inside a JSON string: the quote, the escape sign and the control characters are
escaped, with a letter where there is one. -/
def escapeChar (c : Char) : String :=
  if c = '"' then "\\\""
  else if c = '\\' then "\\\\"
  else if c = '\n' then "\\n"
  else if c = '\r' then "\\r"
  else if c = '\t' then "\\t"
  else if c = '\x08' then "\\b"
  else if c = '\x0c' then "\\f"
  else if c.toNat < 32 then
    "\\u00" ++ String.ofList [Nat.digitChar (c.toNat / 16), Nat.digitChar (c.toNat % 16)]
  else c.toString

def stringText (s : String) : String :=
  "\"" ++ String.join (s.toList.map escapeChar) ++ "\""

def zeros (n : Nat) : List Char := List.replicate n '0'

/-- The digits of a number with the first one at a power of ten.  From the fifth place behind the
point to the sixteenth before it they stand at their places, and there is always one behind the
point; else they stand as one digit, perhaps a fraction, and the power. -/
def digitsText (digits : List Char) (power : Int) : String :=
  if 0 ≤ power ∧ power < 16 then
    let count := power.toNat + 1
    let whole := (digits ++ zeros (count - digits.length)).take count
    let fraction := if digits.length ≤ count then ['0'] else digits.drop count
    String.ofList (whole ++ ['.'] ++ fraction)
  else if -5 ≤ power ∧ power < 0 then
    String.ofList (['0', '.'] ++ zeros ((-power).toNat - 1) ++ digits)
  else
    let fraction := if digits.length ≤ 1 then [] else ['.'] ++ digits.drop 1
    String.ofList (digits.take 1 ++ fraction) ++ (if power < 0 then "e-" else "e+")
      ++ toString power.natAbs

/-- The text of a number of the format binary64: the shortest one that reads back. -/
def binary64Text (x : Binary64) : String :=
  (if x.negative then "-" else "")
    ++ match if x.isZero then none else x.shortest? with
      | none => "0.0"
      | some (number, power) =>
        let digits := Nat.toDigits 10 number
        let needed := (digits.reverse.dropWhile (· = '0')).reverse
        digitsText needed (power + digits.length - 1)

/-! ## Texts -/

mutual

/-- The text of a value without blanks. -/
def compact : Json → String
  | null => "null"
  | bool true => "true"
  | bool false => "false"
  | integer n => toString n
  | binary64 x => binary64Text x
  | string s => stringText s
  | array items => "[" ++ ",".intercalate (compactItems items) ++ "]"
  | object fields => "\x7b" ++ ",".intercalate (compactFields fields) ++ "\x7d"

def compactItems : List Json → List String
  | [] => []
  | item :: items => compact item :: compactItems items

def compactFields : List (String × Json) → List String
  | [] => []
  | (name, value) :: fields => (stringText name ++ ":" ++ compact value) :: compactFields fields

end

/-- The line break before an item `level` levels deep. -/
def lineBreak (level : Nat) : String :=
  "\n" ++ String.ofList (List.replicate (2 * level) ' ')

/-- Items between brackets, each on a line of its own one level below `level`. -/
def block (level : Nat) (opening closing : String) : List String → String
  | [] => opening ++ closing
  | items =>
    opening ++ ",".intercalate (items.map (lineBreak (level + 1) ++ ·)) ++ lineBreak level
      ++ closing

mutual

/-- The text of a value that stands `level` levels deep, one item a line. -/
def prettyAt (level : Nat) : Json → String
  | array items => block level "[" "]" (prettyItems (level + 1) items)
  | object fields => block level "\x7b" "\x7d" (prettyFields (level + 1) fields)
  | null => "null"
  | bool true => "true"
  | bool false => "false"
  | integer n => toString n
  | binary64 x => binary64Text x
  | string s => stringText s

def prettyItems (level : Nat) : List Json → List String
  | [] => []
  | item :: items => prettyAt level item :: prettyItems level items

def prettyFields (level : Nat) : List (String × Json) → List String
  | [] => []
  | (name, value) :: fields =>
    (stringText name ++ ": " ++ prettyAt level value) :: prettyFields level fields

end

/-- The text of a value with one item a line. -/
def pretty (value : Json) : String :=
  prettyAt 0 value

end Json

end Sealing
