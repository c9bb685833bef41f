import Sealing.CommandLine.Arguments
import Sealing.CommandLine.Failure
import Sealing.Program.Basic
/-!
# Where passwords come from

A password comes from the environment or, if there is none, from the first line of the standard
input, without the line end.  Either way it has at least one character.
-/

namespace Sealing.CommandLine

variable {Handle : Type}

/-- A text without the line feeds and carriage returns at its end. -/
def trimLineEnd (s : String) : String :=
  String.ofList (s.toList.reverse.dropWhile fun c => c = '\n' || c = '\r').reverse

def passwordOfLine (line : List UInt8) : Except Failure String :=
  match String.fromUTF8? ⟨line.toArray⟩ with
  | none => .error (.ofSystem .invalidText)
  | some text =>
    let password := trimLineEnd text
    if password = "" then .error (.plain "No password provided") else .ok password

def readPassword (env : Environment) : Task Handle Failure String := do
  let fromInput : Task Handle Failure String := do
    match (← Task.request .inputLine : Except SystemError (List UInt8)) with
    | .error e => throw (.ofSystem e)
    | .ok line => ExceptT.mk (pure (passwordOfLine line))
  match env.password with
  | some password => if password = "" then fromInput else return password
  | none => fromInput

end Sealing.CommandLine
