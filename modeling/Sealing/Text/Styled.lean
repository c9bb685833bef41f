import Sealing.Text.ControlSequence
/-!
# Styled text

A text of which parts are set off, as a terminal shows it.  Elsewhere it is shown without the
sequences for the styles, and without those that stood in the text itself.
-/

namespace Sealing.Text

inductive Style where
  | plain
  /-- The word for an error. -/
  | error
  /-- What is wrong. -/
  | invalid
  /-- What can be written so. -/
  | literal
  /-- What is right. -/
  | valid
deriving DecidableEq, Repr

def Style.opening : Style → String
  | plain => ""
  | error => "\x1b[1m\x1b[31m"
  | invalid => "\x1b[33m"
  | literal => "\x1b[1m"
  | valid => "\x1b[32m"

def Style.closing : Style → String
  | plain => ""
  | _ => "\x1b[0m"

/-- A text in parts, each with its style. -/
abbrev Styled := List (Style × String)

namespace Styled

/-- A text as a terminal gets it. -/
def render (t : Styled) : String :=
  String.join (t.map fun (style, part) => style.opening ++ part ++ style.closing)

/-- A text as it is shown without a terminal. -/
def shown (t : Styled) : String :=
  ControlSequence.remove t.render

end Styled

end Sealing.Text
