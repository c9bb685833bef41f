import Sealing.Log.Event
import Sealing.Text.Number
import Sealing.Text.Pattern
/-!
# Directives

A directive is a level, a target, or both with an equals sign between them, and can name a span and
a field in brackets:

```text
target[span{field=value}]=level
```

A directive speaks of the events whose target begins with its own and which have its field.  The
library has no spans, so that directives on spans or on values, which belong to spans, never speak
of an event.
-/

namespace Sealing.Log

/-- The least level that is shown, or nothing to show no event at all. -/
abbrev Threshold := Option Level

/-- What a directive asks of the fields of an event. -/
structure FieldTest where
  name : String
  /-- The field is compared with a value. -/
  valued : Bool
deriving DecidableEq, Repr

structure Directive where
  target : Option String
  span : Option String
  field : Option FieldTest
  threshold : Threshold
deriving DecidableEq, Repr

/-- Why a text is no directive. -/
inductive DirectiveFault where
  | shape
  | level
  /-- The value of a field is no pattern. -/
  | value (fault : Text.Pattern.Fault)
deriving DecidableEq, Repr

def DirectiveFault.message : DirectiveFault → String
  | shape => "invalid filter directive"
  | level =>
    "error parsing level filter: expected one of \"off\", \"error\", \"warn\", \"info\", "
      ++ "\"debug\", \"trace\", or a number 0-5"
  | value fault => "invalid field filter: " ++ fault.message

/-- Reads a level by its name, in any case, or by its number from 0, for none, to 5, for all. -/
def threshold? (s : String) : Option Threshold :=
  match Text.readNumber Text.wordBound s with
  | .ok 0 => some none
  | .ok 1 => some (some .error)
  | .ok 2 => some (some .warn)
  | .ok 3 => some (some .info)
  | .ok 4 => some (some .debug)
  | .ok 5 => some (some .trace)
  | _ =>
    let lower := s.map Char.toLower
    if lower = "off" then some none
    else (Level.all.find? fun l => l.name.map Char.toLower = lower).map some

/-- Reads a field: its name, and the value behind an equals sign, which is a number or a pattern.
Behind a second equals sign nothing counts. -/
def FieldTest.ofText (s : String) : Except DirectiveFault FieldTest :=
  match s.splitOn "=" with
  | name :: value :: _ =>
    if Text.isReal value then .ok ⟨name, true⟩
    else (fun _ => ⟨name, true⟩) <$> (Text.Pattern.check value).mapError .value
  | _ => .ok ⟨s, false⟩

namespace Directive

/-- A directive that shows all events. -/
def everything : Directive := ⟨none, none, none, some .trace⟩

/-! ## Reading

The parts of a directive are told apart on its text without the blanks at its ends, and each is then
cut out of the whole text between the same places, counted in bytes.  So blanks behind a directive
belong to its last part, and blanks in front of it move all parts forward. -/

/-- The number of bytes of a text. -/
private def width (cs : List Char) : Nat := (String.ofList cs).utf8ByteSize

/-- The part of a text between two places. -/
private def cut (s : String) (start stop : Nat) : Except DirectiveFault String :=
  match String.fromUTF8? (s.toUTF8.extract start stop) with
  | some part => .ok part
  | none => .error .shape

/-- Reads the level from a place on; none at all stands for every event. -/
private def withLevel (s : String) (d : Directive) (start : Nat) :
    Except DirectiveFault Directive := do
  let level ← cut s start s.utf8ByteSize
  if level = "" then return d
  match threshold? level with
  | some threshold => return { d with threshold }
  | none => throw .level

/-- Reads what may follow brackets. -/
private def afterBrackets (s : String) (d : Directive) (start : Nat) :
    List Char → Except DirectiveFault Directive
  | [] => .ok d
  | '=' :: _ => withLevel s d (start + 1)
  | _ => .error .shape

/-- Reads a field in braces and what follows it. -/
private def inBraces (s : String) (d : Directive) (start : Nat) (cs : List Char) :
    Except DirectiveFault Directive :=
  let stop := start + width (cs.takeWhile (· ≠ '\x7d'))
  match cs.dropWhile (· ≠ '\x7d') with
  | [] => .error .shape
  | _ :: rest => do
    let field ← cut s start stop
    if field = "" then throw .shape
    let d := { d with field := some (← FieldTest.ofText field) }
    match rest with
    | ']' :: rest => afterBrackets s d (stop + 2) rest
    | _ => throw .shape

/-- Reads a span in brackets and what follows it. -/
private def inBrackets (s : String) (d : Directive) (start : Nat) (cs : List Char) :
    Except DirectiveFault Directive :=
  let goesOn (c : Char) : Bool := c ≠ ']' && c ≠ '\x7b'
  let stop := start + width (cs.takeWhile goesOn)
  match cs.dropWhile goesOn with
  | [] => .error .shape
  | closing :: rest => do
    let span ← cut s start stop
    if closing = ']' then afterBrackets s { d with span := some span } (stop + 1) rest
    else
      let span := if span = "" then none else some span
      inBraces s { d with span } (stop + 1) rest

private def isTargetStart (c : Char) : Bool :=
  c = '-' || c = ':' || c = '_' || Text.isAlphanumeric c

def ofText (s : String) : Except DirectiveFault Directive :=
  let goesOn (c : Char) : Bool := c ≠ '=' && c ≠ '['
  match Text.trimBlanks s.toList with
  | [] => .error .shape
  | '[' :: rest => inBrackets s everything 1 rest
  | c :: cs =>
    if !isTargetStart c then .error .shape
    else
      let stop := width ((c :: cs).takeWhile goesOn)
      match (c :: cs).dropWhile goesOn with
      | [] =>
        match threshold? s with
        | some threshold => .ok { everything with threshold }
        | none => .ok { everything with target := some s }
      | closing :: rest => do
        let d := { everything with target := some (← cut s 0 stop) }
        if closing = '=' then withLevel s d (stop + 1) else inBrackets s d (stop + 1) rest

/-! ## Deciding -/

/-- Whether a directive speaks of an event. -/
def concerns (d : Directive) (event : Event) : Bool :=
  d.span.isNone
    && (match d.target with
      | some target => event.target.startsWith target
      | none => true)
    && (match d.field with
      | some field =>
        !field.valued && (field.name = "message" || (event.fields.map Prod.fst).contains field.name)
      | none => true)

/-- The order of directives by how much they ask for: the length of the target counts first, then a
field, then the target and the name of the field as texts. -/
def compareDemands (a b : Directive) : Ordering :=
  (compare (a.target.map String.utf8ByteSize) (b.target.map String.utf8ByteSize)).then <|
    (compare a.field.isSome b.field.isSome).then <|
      (compare a.target b.target).then <|
        compare (a.field.map (·.name)) (b.field.map (·.name))

/-- The one of two directives that asks for more, or else the second. -/
def stronger (a b : Directive) : Directive :=
  if (a.compareDemands b).isLE then b else a

end Directive

end Sealing.Log
