import Sealing.Error
/-!
# Reports on failure

A failure has a message and the chain of causes behind it, nearest first.  The report shows the
message, and below it each cause on lines of its own.
-/

namespace Sealing.CommandLine

structure Failure where
  message : String
  causes : List String
deriving DecidableEq, Repr

namespace Failure

def plain (message : String) : Failure := ⟨message, []⟩

/-- An error of the library; the system's failure behind it is its cause. -/
def ofError (e : Error) : Failure :=
  ⟨e.message, (e.cause?.map SystemError.message).toList⟩

def ofSystem (e : SystemError) : Failure := plain e.message

/-- A failure seen from the step that it stopped. -/
def within (context : String) (f : Failure) : Failure :=
  ⟨context, f.message :: f.causes⟩

/-- A text whose first line follows a label and whose other lines follow as many blanks. -/
def labelled (label text : String) : String :=
  let blanks := String.ofList (List.replicate label.length ' ')
  label ++ ("\n" ++ blanks).intercalate (text.splitOn "\n")

/-- The causes, numbered if there are several. -/
def causeLines : List String → List String
  | [] => []
  | [cause] => [labelled "    " cause]
  | causes =>
    causes.zipIdx.map fun (cause, i) =>
      let number := toString i
      labelled (String.ofList (List.replicate (5 - number.length) ' ') ++ number ++ ": ") cause

def report (f : Failure) : String :=
  let heading := "Error: " ++ f.message ++ "\n"
  match causeLines f.causes with
  | [] => heading
  | lines => heading ++ "\nCaused by:\n" ++ String.join (lines.map (· ++ "\n"))

end Failure

end Sealing.CommandLine
