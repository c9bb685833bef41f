import Sealing.CommandLine.Arguments
/-!
# Help texts
-/

namespace Sealing.CommandLine

def programName : String := "sealbox"

def programVersion : String := "0.1.0"

/-- What the program is for. -/
def programPurpose : String :=
  "Seal files with authenticated encryption under a key or password."

def CommandName.purpose : CommandName → String
  | keygen => "Writes a new random key file"
  | sealFile => "Encrypts a file under a password, or a key file if given"
  | openFile => "Decrypts a sealed file"
  | inspect => "Prints the header of a sealed file as JSON"

def Flag.purpose : Flag → String
  | logLevel => "Log filter used when SEALBOX_LOG is not set [default: warn]"
  | input | output => ""
  | keyFile => "[env: SEALBOX_KEY_FILE=]"
  | level => "Argon2 cost preset: interactive, moderate or sensitive [default: moderate]"
  | algorithm => "Password hashing algorithm: argon2id13 or argon2i13 [default: argon2id13]"
  | opsLimit => "Argon2 passes, overriding the preset"
  | memLimit => "Argon2 memory in bytes, overriding the preset"

/-- Rows of two columns, of which the first is as wide as its widest text. -/
def columns (rows : List (String × String)) : String :=
  let width := rows.foldl (fun w r => max w r.1.length) 0
  String.join <| rows.map fun r =>
    let gap := if r.2 = "" then "" else String.ofList (List.replicate (width + 2 - r.1.length) ' ')
    "  " ++ r.1 ++ gap ++ r.2 ++ "\n"

def optionRows (scope : Scope) : List (String × String) :=
  (flagsOf scope).map (fun f => ("    " ++ f.usage, f.purpose))
    ++ [("-h, --help", "Print help")]
    ++ (if scope = none then [("-V, --version", "Print version")] else [])

def helpText : Scope → String
  | none =>
    programPurpose ++ "\n\nUsage: " ++ programName ++ " [OPTIONS] <COMMAND>\n\nCommands:\n"
      ++ columns (CommandName.all.map (fun c => (c.word, c.purpose))
        ++ [("help", "Print this message or the help of the given subcommand(s)")])
      ++ "\nOptions:\n" ++ columns (optionRows none)
  | some command =>
    command.purpose ++ "\n\nUsage: " ++ programName ++ " " ++ command.word ++ " [OPTIONS]"
      ++ String.join (command.required.map fun f => " " ++ f.usage)
      ++ "\n\nOptions:\n" ++ columns (optionRows (some command))

end Sealing.CommandLine
