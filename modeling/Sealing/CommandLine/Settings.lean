import Sealing.Kdf.SecurityLevel
import Sealing.FileSystem.Path
import Sealing.Text.Number
import Sealing.Text.Styled
/-!
# Options and their values

The options of the command line, the values that they take, and what is wrong with an argument.
-/

namespace Sealing.CommandLine

open FileSystem (Path)

/-- An option with a value. -/
inductive Flag where
  | logLevel
  | input
  | output
  | keyFile
  | level
  | algorithm
  | opsLimit
  | memLimit
deriving DecidableEq, Repr

namespace Flag

def all : List Flag :=
  [logLevel, input, output, keyFile, level, algorithm, opsLimit, memLimit]

/-- The name of an option, which two dashes precede. -/
def name : Flag → String
  | logLevel => "log-level"
  | input => "in"
  | output => "out"
  | keyFile => "key-file"
  | level => "level"
  | algorithm => "algorithm"
  | opsLimit => "ops-limit"
  | memLimit => "mem-limit"

/-- The word that stands for the value. -/
def placeholder : Flag → String
  | logLevel => "LOG_LEVEL"
  | input | output | keyFile => "PATH"
  | level => "LEVEL"
  | algorithm => "ALGORITHM"
  | opsLimit => "OPS_LIMIT"
  | memLimit => "MEM_LIMIT"

/-- An option with its value as help texts show it. -/
def usage (f : Flag) : String :=
  "--" ++ f.name ++ " <" ++ f.placeholder ++ ">"

end Flag

/-- What is wrong with the arguments. -/
inductive UsageError where
  /-- An option stands without its value. -/
  | missingValue (flag : Flag)
  | invalidValue (flag : Flag) (value reason : String)
  | repeated (flag : Flag)
  /-- No such option is known here, or an argument is one too many. -/
  | unexpected (argument : String)
  /-- An option without value came with one. -/
  | unexpectedValue (option value : String)
  | unknownCommand (name : String)
  | missing (flags : List Flag)
  /-- There are options but no command. -/
  | noCommand
deriving DecidableEq, Repr

namespace UsageError

open Text (Styled)

/-- A part between quotes. -/
private def quote (style : Text.Style) (part : String) : Styled :=
  [(.plain, "'"), (style, part), (.plain, "'")]

def message : UsageError → Styled
  | missingValue flag =>
    [(.plain, "a value is required for ")] ++ quote .invalid flag.usage
      ++ [(.plain, " but none was supplied")]
  | invalidValue flag value reason =>
    [(.plain, "invalid value ")] ++ quote .invalid value ++ [(.plain, " for ")]
      ++ quote .literal flag.usage ++ [(.plain, ": " ++ reason)]
  | repeated flag =>
    [(.plain, "the argument ")] ++ quote .invalid flag.usage
      ++ [(.plain, " cannot be used multiple times")]
  | unexpected argument =>
    [(.plain, "unexpected argument ")] ++ quote .invalid argument ++ [(.plain, " found")]
  | unexpectedValue option value =>
    [(.plain, "unexpected value ")] ++ quote .invalid value ++ [(.plain, " for ")]
      ++ quote .literal option ++ [(.plain, " found; no more were expected")]
  | unknownCommand name => [(.plain, "unrecognized subcommand ")] ++ quote .invalid name
  | missing flags =>
    [(.plain, "the following required arguments were not provided:")]
      ++ flags.flatMap fun f => [(.plain, "\n  "), (.valid, f.usage)]
  | noCommand =>
    quote .invalid "sealbox"
      ++ [(.plain, " requires a subcommand but one was not provided")]

/-- The report on an error, which points to the help. -/
def report (e : UsageError) : Styled :=
  [(.error, "error:"), (.plain, " ")] ++ e.message
    ++ [(.plain, "\n\nFor more information, try ")] ++ quote .literal "--help"
    ++ [(.plain, ".\n")]

end UsageError

/-- The values of the options that were given. -/
structure Settings where
  logLevel : Option String := none
  input : Option Path := none
  output : Option Path := none
  keyFile : Option Path := none
  level : Option Kdf.SecurityLevel := none
  algorithm : Option Kdf.Algorithm := none
  opsLimit : Option Nat := none
  memLimit : Option Nat := none
deriving DecidableEq, Repr

namespace Settings

def has (s : Settings) : Flag → Bool
  | .logLevel => s.logLevel.isSome
  | .input => s.input.isSome
  | .output => s.output.isSome
  | .keyFile => s.keyFile.isSome
  | .level => s.level.isSome
  | .algorithm => s.algorithm.isSome
  | .opsLimit => s.opsLimit.isSome
  | .memLimit => s.memLimit.isSome

def isEmpty (s : Settings) : Bool := Flag.all.all (!s.has ·)

/-- A path, which has at least one character. -/
def readPath (flag : Flag) (value : String) : Except UsageError Path :=
  if value = "" then .error (.missingValue flag) else .ok ⟨value⟩

/-- A number of 64 bits. -/
def readNumber (flag : Flag) (value : String) : Except UsageError Nat :=
  (Text.readNumber Text.wordBound value).mapError fun fault =>
    .invalidValue flag value fault.message

/-- Gives an option its value, whatever value it has. -/
def assign (s : Settings) (flag : Flag) (value : String) : Except UsageError Settings :=
  let named {α : Type} (read : String → Except Error α) : Except UsageError α :=
    (read value).mapError fun e => .invalidValue flag value e.message
  match flag with
  | .logLevel => .ok { s with logLevel := some value }
  | .input => do return { s with input := some (← readPath flag value) }
  | .output => do return { s with output := some (← readPath flag value) }
  | .keyFile => do return { s with keyFile := some (← readPath flag value) }
  | .level => do return { s with level := some (← named Kdf.SecurityLevel.ofName) }
  | .algorithm => do return { s with algorithm := some (← named Kdf.Algorithm.ofName) }
  | .opsLimit => do return { s with opsLimit := some (← readNumber flag value) }
  | .memLimit => do return { s with memLimit := some (← readNumber flag value) }

/-- Gives an option its value, which it must not have yet. -/
def add (s : Settings) (flag : Flag) (value : String) : Except UsageError Settings :=
  if s.has flag then .error (.repeated flag) else s.assign flag value

end Settings

end Sealing.CommandLine
