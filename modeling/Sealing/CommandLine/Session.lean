import Sealing.CommandLine.Help
import Sealing.CommandLine.Run
import Sealing.Log.Filter
/-!
# A run of the program

From arguments and environment to exit code and output.  What is shown of the log goes to the
standard error output before the report on a failure.
-/

namespace Sealing.CommandLine

/-- What a run leaves: its exit code, and what it wrote to the two outputs. -/
structure Exit where
  code : Nat
  output : String
  errors : String
deriving DecidableEq, Repr

namespace Exit

def ofInterruption : Interruption → Exit
  | .usage e => ⟨2, "", e.report.shown⟩
  | .help scope => ⟨0, helpText scope, ""⟩
  | .helpNeeded => ⟨2, "", helpText none⟩
  | .version => ⟨0, programName ++ " " ++ programVersion ++ "\n", ""⟩

def ofResult : Except Failure String → Exit
  | .ok output => ⟨0, output, ""⟩
  | .error failure => ⟨1, "", failure.report⟩

end Exit

/-- The log filter of a run, with warnings on what was left out of it: the one in the environment if
it is sound, else the one in the arguments. -/
def logFilter (env : Environment) (logLevel : String) : Log.Filter × List String :=
  match env.log.map Log.Filter.ofText with
  | some (.ok filter) => (filter, [])
  | _ => Log.Filter.ofTextLossy logLevel

def shownLines (filter : Log.Filter) (events : List Log.Event) : String :=
  String.join ((events.filter filter.shows).map fun e => e.line ++ "\n")

/-- A run of the program in a world whose log is still empty. -/
def run (env : Environment) (arguments : List String) (w : World) : Exit × World :=
  match parse env arguments with
  | .error interruption => (.ofInterruption interruption, w)
  | .ok invocation =>
    let (filter, warnings) := logFilter env invocation.logLevel
    let (result, after) := Program.run (invocation.command.program env).run w
    let exit := Exit.ofResult result
    let shown := String.join (warnings.map (· ++ "\n")) ++ shownLines filter after.events
    ({ exit with errors := shown ++ exit.errors }, after)

end Sealing.CommandLine
