import Sealing.Text.Front
import Sealing.Text.Hexadecimal
import Sealing.Text.Numeric
import Sealing.Text.Pattern.Level
import Sealing.Text.Pattern.Mode
/-!
# Patterns

Which texts are patterns for the values of fields.  A pattern is built from characters, classes in
square brackets, groups in round ones, alternatives and repetitions; `Pattern.check` says whether a
text is one.  There are no tables for the kinds and the cases of the characters of all scripts, so a
pattern that asks for them is refused; the flag `u` switched off lets a pattern speak of bytes, for
which no tables are needed.
-/

namespace Sealing.Text.Pattern

/-- Why a text is no pattern. -/
inductive Fault where
  | malformed
  /-- It asks for the edges of words of all scripts. -/
  | wordEdge
deriving DecidableEq, Repr

def Fault.message : Fault → String
  | malformed => "error building NFA"
  | wordEdge =>
    "unsupported regex feature for DFAs: cannot build DFAs for regexes with Unicode word "
      ++ "boundaries; switch to ASCII word boundaries, or heuristically enable Unicode word "
      ++ "boundaries or use a different regex engine"

/-! ## Pieces -/

/-- What a single part of a pattern stands for. -/
inductive Atom where
  /-- A character; `coded` if two digits give its number. -/
  | char (c : Char) (coded : Bool)
  /-- The digits, the blanks or the characters of words. -/
  | kind
  /-- An end of the text. -/
  | place
  /-- An edge of a word. -/
  | edge
deriving DecidableEq, Repr

namespace Mode

/-- Whether a part can stand outside a class.  Without the flag `u` the two digits of a number are
those of a byte, and a byte from 128 on is no character; only letters of ASCII have cases then. -/
def admits (m : Mode) : Atom → Bool
  | .char c coded => if m.unicode then !m.anyCase else c.toNat < 128 || !coded
  | .kind => !m.unicode
  | .place | .edge => true

/-- Whether a part can stand in a class. -/
def admitsInClass (m : Mode) : Atom → Bool
  | .char c _ => if m.unicode then !m.anyCase else c.toNat < 128
  | .kind => !m.unicode
  | .place | .edge => false

end Mode

/-! ## Escapes -/

/-- Reads a number of so many digits in base 16, behind those that made `value`. -/
def readCode (m : Mode) (value : Nat) : Nat → (cs : List Char) → Option (Front Nat cs)
  | 0, _ => some (.here value)
  | digits + 1, cs =>
    match h : m.skip cs with
    | [] => none
    | c :: rest => do
      let digit ← hexValue? c
      let front ← readCode m (16 * value + digit) digits rest
      return front.within (Nat.le_of_lt (m.length_lt_of_skip_eq_cons h))

def readCoded (m : Mode) (digits : Nat) (cs : List Char) : Option (Front Atom cs) := do
  let front ← readCode m 0 digits cs
  if front.value.isValidChar then
    return front.map fun n => .char (Char.ofNat n) (digits = 2)
  else none

/-- The part that a letter or a sign stands for behind the escape sign.  A sign of ASCII stands for
itself, but for the two angle brackets. -/
def escaped? (c : Char) : Option Atom :=
  match c with
  | 'd' | 's' | 'w' => some .kind
  | 'a' => some (.char '\x07' false)
  | 'f' => some (.char '\x0c' false)
  | 't' => some (.char '\t' false)
  | 'n' => some (.char '\n' false)
  | 'r' => some (.char '\r' false)
  | 'v' => some (.char '\x0b' false)
  | 'A' | 'z' => some .place
  | 'b' | 'B' | '<' | '>' => some .edge
  | c => if c.toNat < 128 ∧ !c.isAlphanum then some (.char c false) else none

/-- Reads what stands behind the escape sign. -/
def readEscape (m : Mode) : (cs : List Char) → Option (Front Atom cs)
  | [] => none
  | 'x' :: cs => Front.behind <$> readCoded m 2 cs
  | 'u' :: cs => Front.behind <$> readCoded m 4 cs
  | 'U' :: cs => Front.behind <$> readCoded m 8 cs
  | c :: _ => (escaped? c).map fun a => (Front.here a).behind

/-! ## Classes -/

/-- The classes of ASCII characters that have a name. -/
def classNames : List String :=
  ["alnum", "alpha", "ascii", "blank", "cntrl", "digit", "graph", "lower", "print", "punct",
    "space", "upper", "word", "xdigit"]

/-- Reads the name of a class with the colon and the bracket behind it. -/
def readClassName (cs : List Char) : Option (Front String cs) :=
  match h : cs.dropWhile (· ≠ ':') with
  | ':' :: ']' :: rest =>
    let name : Front String rest := .here (String.ofList (cs.takeWhile (· ≠ ':')))
    if name.value ∈ classNames then
      some (name.behind.behind.within (h ▸ (List.dropWhile_sublist _).length_le))
    else none
  | _ => none

/-- Reads a class by its name, behind an opening bracket; tells whether all other characters are
meant. -/
def readNamedClass : (cs : List Char) → Option (Front Bool cs)
  | ':' :: '^' :: cs => (readClassName cs).map fun front => (front.map fun _ => true).behind.behind
  | ':' :: cs => (readClassName cs).map fun front => (front.map fun _ => false).behind
  | _ => none

/-- Reads a part of a class that begins with a character. -/
def readMember (m : Mode) (c : Char) (cs : List Char) : Option (Front Atom cs) :=
  if c = '\\' then readEscape m cs else some (.here (.char c false))

/-- Reads a part of a class that begins with a character, and the other end if it begins a range.  A
hyphen in front of a closing bracket or of another hyphen makes no range. -/
def readRange (m : Mode) (c : Char) (cs : List Char) : Option (Front Unit cs) := do
  let first ← readMember m c cs
  let alone := if m.admitsInClass first.value then some (first.map fun _ => ()) else none
  match h : m.skip first.rest with
  | '-' :: rest =>
    if m.peek rest = some ']' ∨ m.peek rest = some '-' then alone
    else
      match h' : m.skip rest with
      | [] => none
      | d :: rest' => do
        let second ← readMember m d rest'
        match first.value, second.value with
        | .char a _, .char b _ =>
          if a ≤ b ∧ m.admitsInClass first.value ∧ m.admitsInClass second.value then
            have := m.length_lt_of_skip_eq_cons h
            have := m.length_lt_of_skip_eq_cons h'
            return (second.map fun _ => ()).within (by have := first.length_rest_le; omega)
          else none
        | _, _ => none
  | _ => alone

/-- How far a class has been read. -/
inductive Stage where
  /-- Nothing but the opening bracket. -/
  | opened
  /-- Hyphens only, which stand for themselves there. -/
  | hyphens
  /-- More than that. -/
  | begun
deriving DecidableEq, Repr

/-- Reads what asks for all other characters, behind an opening bracket. -/
def readOthers (m : Mode) (cs : List Char) : Front Bool cs :=
  match h : m.skip cs with
  | '^' :: _ => (Front.here true).within (Nat.le_of_lt (m.length_lt_of_skip_eq_cons h))
  | _ => .here false

/-! ## Groups -/

/-- What an opening bracket begins: a group with its own mode and perhaps a name, or nothing but a
change of mode. -/
inductive Opening where
  | group (mode : Mode) (name : Option String)
  | change (mode : Mode)
deriving DecidableEq, Repr

/-- Reads flags up to the colon of a group or to a closing bracket.  A hyphen switches off those
behind it; each stands once. -/
def readFlags (m : Mode) (seen : List Char) : (cs : List Char) → Option (Front Opening cs)
  | [] => none
  | c :: cs =>
    if c = ')' then
      if seen = [] ∨ seen.head? = some '-' then none else some (Front.here (.change m)).behind
    else if c = ':' then
      if seen.head? = some '-' then none else some (Front.here (.group m none)).behind
    else if c ∈ seen ∨ c ∉ ['i', 'm', 's', 'U', 'u', 'R', 'x', '-'] then none
    else Front.behind <$> readFlags (m.set c (!seen.contains '-')) (c :: seen) cs

/-- Whether a character can be part of the name of a group. -/
def isNameChar (c : Char) : Bool :=
  c = '_' || c = '.' || c = '[' || c = ']' || isAlphanumeric c

/-- Reads the name of a group with the angle bracket behind it. -/
def readGroupName (cs : List Char) : Option (Front String cs) :=
  let name := cs.takeWhile (· ≠ '>')
  match h : cs.dropWhile (· ≠ '>') with
  | _ :: rest =>
    if (name.head?.any fun c => c = '_' || isAlphabetic c) ∧ name.all isNameChar then
      let front : Front String rest := .here (String.ofList name)
      some (front.behind.within (h ▸ (List.dropWhile_sublist _).length_le))
    else none
  | [] => none

/-- Reads what stands behind the opening bracket of a group. -/
def readOpening (m : Mode) (cs : List Char) : Option (Front Opening cs) :=
  let named {cs : List Char} (front : Front String cs) : Front Opening cs :=
    front.map fun name => .group m (some name)
  match h : m.skip cs with
  | '?' :: 'P' :: '<' :: rest =>
    (readGroupName rest).map fun front =>
      (named front).behind.behind.behind.within (h ▸ m.length_skip_le cs)
  | '?' :: '<' :: rest =>
    (readGroupName rest).map fun front =>
      (named front).behind.behind.within (h ▸ m.length_skip_le cs)
  | '?' :: rest =>
    (readFlags m [] rest).map fun front => front.behind.within (h ▸ m.length_skip_le cs)
  | _ => some (.here (.group m none))

/-! ## Patterns -/

/-- What is known of a pattern while it is read. -/
structure Reading where
  mode : Mode := {}
  /-- The innermost group that is open, or else the pattern itself. -/
  level : Level := {}
  /-- The modes and the levels outside the open groups, the innermost first. -/
  outer : List (Mode × Level) := []
  /-- The open classes, the innermost first. -/
  classes : List Level := []
  /-- How far the innermost class has been read. -/
  stage : Stage := .begun
  /-- The last part can be repeated. -/
  repeatable : Bool := false
  names : List String := []
  /-- The edges of words of all scripts were asked for. -/
  edges : Bool := false
deriving DecidableEq, Repr

namespace Reading

def part (r : Reading) (depth : Nat) : Reading :=
  { r with level := r.level.add depth, repeatable := true }

def member (r : Reading) (depth : Nat) : Reading :=
  { r with classes := r.classes.modifyHead (·.add depth), stage := .begun }

def openClass (r : Reading) : Reading :=
  { r with classes := {} :: r.classes, stage := .opened }

/-- The innermost class has been read, which is a part of the class around it or of the pattern. -/
def closeClass (r : Reading) : Reading :=
  match r.classes with
  | [] => r
  | [c] => { r with classes := [] }.part (c.whole + 1)
  | c :: around => { r with classes := around }.member (c.whole + 1)

/-- Reads on inside a class.  Two hyphens, ampersands or tildes join what stands on their sides.  A
class of all other characters can stand inside another one even where letters stand for both their
cases, as nothing but an empty class or its opposite is left to stand there. -/
def inClass (r : Reading) (c : Char) (rest : List Char) : Option (Front Reading rest) :=
  let m := r.mode
  if c = '-' ∧ r.stage ≠ .begun then
    if m.admitsInClass (.char c false) then some (.here { r.member 0 with stage := .hyphens })
    else none
  else if c = ']' ∧ r.stage = .opened then
    if m.admitsInClass (.char c false) then some (.here (r.member 0)) else none
  else if c = '[' then
    match readNamedClass rest with
    | some front =>
      let refused := if m.unicode then m.anyCase else front.value
      if refused then none else some (front.map fun _ => r.member 0)
    | none =>
      let front := readOthers m rest
      if front.value && !m.unicode then none else some (front.map fun _ => r.openClass)
  else if c = ']' then some (.here r.closeClass)
  else
    match rest with
    | d :: _ =>
      if c = d ∧ c ∈ ['&', '-', '~'] then
        let classes := r.classes.modifyHead Level.joined
        some (Front.here { r with classes, stage := .begun }).behind
      else (readRange m c _).map (·.map fun _ => r.member 0)
    | [] => none

/-- Reads on behind a sign of repetition.  A question mark that follows it at once belongs to it. -/
def repeated (r : Reading) : (rest : List Char) → Front Reading rest
  | '?' :: _ => (Front.here { r with level := r.level.repeated }).behind
  | _ => .here { r with level := r.level.repeated }

/-- Reads on outside a class. -/
def outsideClass (r : Reading) (c : Char) (rest : List Char) : Option (Front Reading rest) :=
  let m := r.mode
  match c with
  | '(' =>
    (readOpening m rest).bind fun front =>
      let r := { r with repeatable := false }
      match front.value with
      | .change mode => some (front.map fun _ => { r with mode, level := r.level.add 0 })
      | .group mode name =>
        if name.any (· ∈ r.names) then none
        else some (front.map fun _ =>
          { r with
            mode, level := {}, outer := (m, r.level) :: r.outer, names := name.toList ++ r.names })
  | ')' =>
    match r.outer with
    | [] => none
    | (mode, level) :: outer =>
      some (.here ({ r with mode, level, outer }.part (r.level.whole + 1)))
  | '|' => some (.here { r with level := r.level.alternative, repeatable := false })
  | '[' =>
    let front := readOthers m rest
    if front.value && !m.unicode then none else some (front.map fun _ => r.openClass)
  | '*' | '+' | '?' => if r.repeatable then some (r.repeated rest) else none
  | '\x7b' => none
  | '.' => if m.unicode then some (.here (r.part 0)) else none
  | '^' | '$' => some (.here (r.part 0))
  | '\\' =>
    (readEscape m rest).bind fun front =>
      let edges := r.edges || (front.value = .edge && m.unicode)
      if m.admits front.value then some (front.map fun _ => { r.part 0 with edges }) else none
  | c => if m.admits (.char c false) then some (.here (r.part 0)) else none

def step (r : Reading) (c : Char) (rest : List Char) : Option (Front Reading rest) :=
  if r.classes = [] then r.outsideClass c rest else r.inClass c rest

/-- Reads the rest of a pattern, at whose end nothing is open. -/
def toEnd (r : Reading) (cs : List Char) : Option Reading :=
  match h : r.mode.skip cs with
  | [] => if r.outer = [] ∧ r.classes = [] ∧ r.level.whole ≤ deepest then some r else none
  | c :: rest =>
    have := r.mode.length_lt_of_skip_eq_cons h
    match r.step c rest with
    | some front =>
      have := front.length_rest_le
      front.value.toEnd front.rest
    | none => none
termination_by cs.length

end Reading

/-- Whether a text is a pattern, and if not, why. -/
def check (s : String) : Except Fault Unit :=
  match ({} : Reading).toEnd s.toList with
  | none => .error .malformed
  | some r => if r.edges then .error .wordEdge else .ok ()

end Sealing.Text.Pattern
