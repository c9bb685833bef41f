/-!
# Control sequences

What remains of a text when the sequences that steer a terminal are taken out of it.  A sequence
begins with the escape sign.  A bracket behind that begins a control sequence, other signs begin
strings for a device or for the system, and the rest are sequences of one or two signs.  The control
characters that move on without a sequence go too, but for blanks.
-/

namespace Sealing.Text.ControlSequence

/-- Where a terminal is in a sequence. -/
inductive State where
  /-- Outside of all sequences. -/
  | ground
  /-- Behind the escape sign, and behind the signs of the middle that can follow it. -/
  | escape
  | escapeMiddle
  /-- In a control sequence: at its begin, in its parameters, behind them, in one without sense. -/
  | controlBegin
  | controlParameters
  | controlMiddle
  | controlIgnored
  /-- In a string for a device: the same, and in its contents. -/
  | deviceBegin
  | deviceParameters
  | deviceMiddle
  | deviceContents
  /-- In a string for the system. -/
  | system
  /-- In a string that nobody reads. -/
  | string
deriving DecidableEq, Repr

/-- Whether the code of a character lies in a range. -/
def within (low high : Nat) (c : Char) : Bool :=
  low ≤ c.toNat && c.toNat ≤ high

/-- Whether one of the bytes of a character ends a string. -/
def endsString (c : Char) : Bool :=
  (String.singleton c).toUTF8.toList.contains 0x9c

/-- Where a terminal is behind a character. -/
def State.next (s : State) (c : Char) : State :=
  if c = '\x1b' then escape
  else if c = '\x18' ∨ c = '\x1a' then ground
  else
    match s with
    | ground => ground
    | escape =>
      if within 0x20 0x2f c then escapeMiddle
      else if c = '[' then controlBegin
      else if c = 'P' then deviceBegin
      else if c = ']' then system
      else if c = 'X' ∨ c = '^' ∨ c = '_' then string
      else if within 0x30 0x7e c then ground
      else s
    | escapeMiddle => if within 0x30 0x7e c then ground else s
    | controlBegin =>
      if within 0x20 0x2f c then controlMiddle
      else if within 0x30 0x3f c then controlParameters
      else if within 0x40 0x7e c then ground
      else s
    | controlParameters =>
      if within 0x20 0x2f c then controlMiddle
      else if within 0x3c 0x3f c then controlIgnored
      else if within 0x40 0x7e c then ground
      else s
    | controlMiddle =>
      if within 0x30 0x3f c then controlIgnored
      else if within 0x40 0x7e c then ground
      else s
    | controlIgnored => if within 0x40 0x7e c then ground else s
    | deviceBegin =>
      if within 0x20 0x2f c then deviceMiddle
      else if within 0x30 0x3f c then deviceParameters
      else if within 0x40 0x7e c then deviceContents
      else s
    | deviceParameters =>
      if within 0x20 0x2f c then deviceMiddle
      else if within 0x3c 0x7e c then deviceContents
      else s
    | deviceMiddle => if within 0x30 0x7e c then deviceContents else s
    | deviceContents | string => if endsString c then ground else s
    | system => if c = '\x07' then ground else s

/-- Whether a character is one of the blanks that are control characters. -/
def isControlBlank (c : Char) : Bool :=
  c = '\t' || c = '\n' || c = '\x0c' || c = '\r'

/-- Whether a character remains. -/
def State.keeps (s : State) (c : Char) : Bool :=
  match s with
  | ground => isControlBlank c || (0x20 ≤ c.toNat && c ≠ '\x7f')
  | escape | escapeMiddle | controlBegin | controlParameters | controlMiddle | controlIgnored =>
    isControlBlank c
  | deviceBegin | deviceParameters | deviceMiddle | deviceContents | system | string => false

/-- The place in a text up to which sequences have been taken out. -/
structure Cursor where
  state : State := .ground
  /-- The character before remained.  Then what follows remains as if no sequence had begun, up to
  the next control character. -/
  keeping : Bool := true
deriving DecidableEq, Repr

namespace Cursor

/-- Whether the next character remains. -/
def keeps (p : Cursor) (c : Char) : Bool :=
  if p.keeping then State.ground.keeps c else p.state.keeps c

/-- The place behind a character.  A character outside of ASCII ends the sequence that it stands
in where it remains. -/
def next (p : Cursor) (c : Char) : Cursor :=
  if p.keeps c then
    ⟨if 128 ≤ c.toNat then .ground else if p.keeping then p.state else p.state.next c, true⟩
  else ⟨p.state.next c, false⟩

end Cursor

/-- What remains of the characters behind a place. -/
def removeFrom (p : Cursor) : List Char → List Char
  | [] => []
  | c :: cs =>
    if p.keeps c then c :: removeFrom (p.next c) cs else removeFrom (p.next c) cs

/-- What remains of a text. -/
def remove (s : String) : String :=
  String.ofList (removeFrom {} s.toList)

end Sealing.Text.ControlSequence
