import Sealing.Json.Value
import Sealing.Text.Quoted
/-!
# Choices written in JSON

A value of a closed list of named ones is written as its name.  It is read from that name, or from
an object whose only field has that name and holds `null`; names are compared exactly.
-/

namespace Sealing.Json

/-- Why a JSON value is none of the choices. -/
inductive ChoiceError where
  /-- The name is none of the known ones. -/
  | unknownName (name : String) (known : List String)
  /-- A value of another kind was expected. -/
  | wrongKind (found : Json) (expected : String)
  /-- An object has no field or more than one. -/
  | notOneField
deriving Repr

/-- A value as error texts speak of it: its kind, with the value if it is a small one. -/
def kindText : Json → String
  | null => "null"
  | bool b => s!"boolean `{b}`"
  | integer n => s!"integer `{n}`"
  | binary64 x => "floating point `" ++ binary64Text x ++ "`"
  | string s => "string " ++ Text.quoted s
  | array _ => "sequence"
  | object _ => "map"

namespace ChoiceError

def knownText : List String → String
  | [] => "there are no variants"
  | [one] => s!"expected `{one}`"
  | [one, two] => s!"expected `{one}` or `{two}`"
  | names => "expected one of " ++ ", ".intercalate (names.map fun n => s!"`{n}`")

def message : ChoiceError → String
  | unknownName name known => s!"unknown variant `{name}`, " ++ knownText known
  | wrongKind found expected => "invalid type: " ++ kindText found ++ ", expected " ++ expected
  | notOneField => "invalid value: map, expected map with a single key"

end ChoiceError

def choiceNamed {α : Type} (choices : List (String × α)) (name : String) :
    Except ChoiceError α :=
  match choices.lookup name with
  | some choice => .ok choice
  | none => .error (.unknownName name (choices.map Prod.fst))

/-- Reads a choice from its name, or from an object with that one field, holding `null`. -/
def toChoice {α : Type} (choices : List (String × α)) : Json → Except ChoiceError α
  | string name => choiceNamed choices name
  | object [(name, content)] => do
    let choice ← choiceNamed choices name
    match content with
    | null => return choice
    | other => throw (.wrongKind other "unit")
  | object _ => .error .notOneField
  | other => .error (.wrongKind other "string or map")

end Sealing.Json
