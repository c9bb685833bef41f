import Sealing.Json.Numeral
import Sealing.Text.Hexadecimal
/-!
# Reading JSON

`Json.ofText?` reads a text that holds one JSON value and blanks around it.  Of two fields of an
object with one name the last counts.
-/

namespace Sealing.Json

open Text (Front hexValue?)

/-- Drops the blanks between the parts of a text. -/
def dropBlanks (cs : List Char) : List Char :=
  cs.dropWhile fun c => c = ' ' || c = '\t' || c = '\n' || c = '\r'

theorem length_dropBlanks_le (cs : List Char) : (dropBlanks cs).length ≤ cs.length :=
  (List.dropWhile_sublist _).length_le

theorem length_lt_of_dropBlanks_eq_cons {cs rest : List Char} {c : Char}
    (h : dropBlanks cs = c :: rest) : rest.length < cs.length := by
  have := length_dropBlanks_le cs
  rw [h, List.length_cons] at this
  omega

/-! ## Strings -/

/-- The number that four digits in base 16 make. -/
def codeUnit? (a b c d : Char) : Option Nat := do
  return 4096 * (← hexValue? a) + 256 * (← hexValue? b) + 16 * (← hexValue? c) + (← hexValue? d)

/-- The character that a letter or a sign stands for behind the escape sign. -/
def escaped? : Char → Option Char
  | '"' => some '"'
  | '\\' => some '\\'
  | '/' => some '/'
  | 'b' => some '\x08'
  | 'f' => some '\x0c'
  | 'n' => some '\n'
  | 'r' => some '\r'
  | 't' => some '\t'
  | _ => none

/-- The character with a number below 65536, if there is one. -/
def charOfUnit? (n : Nat) : Option Char :=
  if n.isValidChar then some (Char.ofNat n) else none

/-- The character that two numbers stand for, the first from the upper half of the range of such
pairs and the second from the lower. -/
def charOfPair? (high low : Nat) : Option Char :=
  if 0xd800 ≤ high ∧ high < 0xdc00 ∧ 0xdc00 ≤ low ∧ low < 0xe000 then
    some (Char.ofNat (0x10000 + 0x400 * (high - 0xd800) + (low - 0xdc00)))
  else none

/-- Reads the characters of a string up to the quote that ends it. -/
def readChars : (cs : List Char) → Option (Front (List Char) cs)
  | [] => none
  | '"' :: cs => some ⟨[], cs, Nat.le_succ _⟩
  | '\\' :: 'u' :: a :: b :: c :: d :: '\\' :: 'u' :: e :: f :: g :: h :: cs => do
    let first ← codeUnit? a b c d
    match (codeUnit? e f g h).bind (charOfPair? first) with
    | some char =>
      let front ← readChars cs
      return ((front.map (char :: ·)).within (by simp only [List.length_cons]; omega))
    | none =>
      let char ← charOfUnit? first
      let front ← readChars ('\\' :: 'u' :: e :: f :: g :: h :: cs)
      return ((front.map (char :: ·)).within (by simp only [List.length_cons]; omega))
  | '\\' :: 'u' :: a :: b :: c :: d :: cs => do
    let char ← (codeUnit? a b c d).bind charOfUnit?
    let front ← readChars cs
    return ((front.map (char :: ·)).within (by simp only [List.length_cons]; omega))
  | '\\' :: c :: cs => do
    let char ← escaped? c
    let front ← readChars cs
    return (front.map (char :: ·)).behind.behind
  | c :: cs =>
    if c.toNat < 32 then none else (readChars cs).map fun front => (front.map (c :: ·)).behind

def readString (cs : List Char) : Option (Front String cs) :=
  (readChars cs).map (·.map String.ofList)

/-! ## Values -/

/-- Reads a value with a name. -/
def readWord (word : String) (value : Json) (cs : List Char) : Option (Front Json cs) :=
  if word.toList.isPrefixOf cs then
    some ⟨value, cs.drop word.length, by rw [List.length_drop]; omega⟩
  else none

def readNumber (cs : List Char) : Option (Front Json cs) := do
  let front ← readNumeral cs
  let value ← front.value.toJson?
  return front.map fun _ => value

/-- Puts a field in front of others, among which its name counts more. -/
def putField (name : String) (value : Json) (fields : List (String × Json)) :
    List (String × Json) :=
  if fields.any (·.1 = name) then fields else (name, value) :: fields

/-- Reads the name of a field with the colon behind it. -/
def readName (cs : List Char) : Option (Front String cs) :=
  match h : dropBlanks cs with
  | '"' :: rest => do
    let name ← readString rest
    match h' : dropBlanks name.rest with
    | ':' :: after =>
      have := length_lt_of_dropBlanks_eq_cons h
      have := name.length_rest_le
      have := length_lt_of_dropBlanks_eq_cons h'
      return ⟨name.value, after, by omega⟩
    | _ => none
  | _ => none

mutual

/-- Reads a value, with blanks in front of it. -/
def readValue (cs : List Char) : Option (Front Json cs) :=
  match h : dropBlanks cs with
  | [] => none
  | c :: rest =>
    have lt := length_lt_of_dropBlanks_eq_cons h
    if c = '"' then
      (readString rest).map fun front => (front.map string).within (Nat.le_of_lt lt)
    else if c = '[' then
      (readItems true rest).map fun front => (front.map array).within (Nat.le_of_lt lt)
    else if c = '\x7b' then
      (readFields true rest).map fun front => (front.map object).within (Nat.le_of_lt lt)
    else
      (readWord "null" null (c :: rest) <|> readWord "true" (bool true) (c :: rest)
        <|> readWord "false" (bool false) (c :: rest) <|> readNumber (c :: rest)).map fun front =>
          front.within lt
termination_by 2 * cs.length

/-- Reads the items of an array up to the bracket that ends it; only the first can be missing. -/
def readItems (first : Bool) (cs : List Char) : Option (Front (List Json) cs) :=
  match h : dropBlanks cs with
  | [] => none
  | c :: rest =>
    if c = ']' ∧ first then
      some ⟨[], rest, Nat.le_of_lt (length_lt_of_dropBlanks_eq_cons h)⟩
    else do
      let item ← readValue cs
      have := item.length_rest_le
      match h' : dropBlanks item.rest with
      | [] => none
      | sign :: rest =>
        have := length_lt_of_dropBlanks_eq_cons h'
        if sign = ',' then
          let front ← readItems false rest
          return (front.map (item.value :: ·)).within (by omega)
        else if sign = ']' then return ⟨[item.value], rest, by omega⟩
        else none
termination_by 2 * cs.length + 1

/-- Reads the fields of an object up to the brace that ends it; only the first can be missing. -/
def readFields (first : Bool) (cs : List Char) : Option (Front (List (String × Json)) cs) :=
  match h : dropBlanks cs with
  | [] => none
  | c :: rest =>
    if c = '\x7d' ∧ first then
      some ⟨[], rest, Nat.le_of_lt (length_lt_of_dropBlanks_eq_cons h)⟩
    else do
      let name ← readName cs
      have := name.length_rest_le
      let value ← readValue name.rest
      have := value.length_rest_le
      match h' : dropBlanks value.rest with
      | [] => none
      | sign :: rest =>
        have := length_lt_of_dropBlanks_eq_cons h'
        if sign = ',' then
          let front ← readFields false rest
          return (front.map (putField name.value value.value)).within (by omega)
        else if sign = '\x7d' then return ⟨[(name.value, value.value)], rest, by omega⟩
        else none
termination_by 2 * cs.length + 1

end

/-- Reads a text that holds one value. -/
def ofText? (s : String) : Option Json :=
  (readValue s.toList).bind fun front =>
    if dropBlanks front.rest = [] then some front.value else none

end Sealing.Json
