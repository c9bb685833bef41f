import Sealing.CommandLine.Settings
/-!
# Reading the arguments

The arguments are options of the program, the name of a command, and options of the command.  An
option waits for its value, and what it waited for is looked at when the next option begins or the
arguments of its command end; an argument that is not understood is an error at once.  Then the
environment fills in, then the options that the command needs are counted, and last the options in
front of the command are settled.
-/

namespace Sealing.CommandLine

open FileSystem (Path)

/-- The values of the environment variables that the program reads. -/
structure Environment where
  password : Option String := none
  keyFile : Option String := none
  log : Option String := none
deriving DecidableEq, Repr

inductive CommandName where
  | keygen
  | sealFile
  | openFile
  | inspect
deriving DecidableEq, Repr

namespace CommandName

def all : List CommandName := [keygen, sealFile, openFile, inspect]

/-- The word for a command. -/
def word : CommandName → String
  | keygen => "keygen"
  | sealFile => "seal"
  | openFile => "open"
  | inspect => "inspect"

/-- The options that a command needs. -/
def required : CommandName → List Flag
  | keygen => [.output]
  | sealFile | openFile => [.input, .output]
  | inspect => [.input]

/-- The options that a command takes besides. -/
def optional : CommandName → List Flag
  | keygen => []
  | sealFile => [.keyFile, .level, .algorithm, .opsLimit, .memLimit]
  | openFile => [.keyFile]
  | inspect => []

end CommandName

/-- Whose options are being read: those of the program or those of a command. -/
abbrev Scope := Option CommandName

/-- The options within a scope.  The log level can stand in each. -/
def flagsOf : Scope → List Flag
  | none => [.logLevel]
  | some command => command.required ++ command.optional ++ [.logLevel]

/-- Why the arguments do not come to a command. -/
inductive Interruption where
  | usage (error : UsageError)
  /-- Help on a scope was asked for. -/
  | help (scope : Scope)
  | helpNeeded
  | version
deriving DecidableEq, Repr

/-- The state of reading: the values so far, and the option last named with its value, if that has
come. -/
structure Reading where
  settings : Settings := {}
  pending : Option (Flag × Option String) := none
deriving DecidableEq, Repr

namespace Reading

/-- Takes the pending option into the values. -/
def settle (r : Reading) : Except UsageError Reading :=
  match r.pending with
  | none => .ok r
  | some (flag, none) => .error (.missingValue flag)
  | some (flag, some value) => do return ⟨← r.settings.add flag value, none⟩

/-- Whether the next argument can be a value. -/
def awaitsValue (r : Reading) : Bool :=
  match r.pending with
  | some (_, none) => true
  | _ => false

end Reading

/-- The words that end the options of the program. -/
inductive Word where
  | command (name : CommandName)
  | help
deriving DecidableEq, Repr

def word? (argument : String) : Option Word :=
  if argument = "help" then some .help
  else (CommandName.all.find? (·.word = argument)).map .command

/-- The error on an argument that is no option and no value. -/
def misplaced (scope : Scope) (trailing : Bool) (argument : String) : UsageError :=
  match scope with
  | some _ => .unexpected argument
  | none =>
    if trailing ∧ (word? argument).isSome then .unexpected argument else .unknownCommand argument

/-- Reads an option that begins with two dashes, its value behind an equals sign if there is one. -/
def readLong (scope : Scope) (r : Reading) (body : String) : Except Interruption Reading :=
  let name := String.ofList (body.toList.takeWhile (· ≠ '='))
  let value :=
    match body.toList.dropWhile (· ≠ '=') with
    | '=' :: value => some (String.ofList value)
    | _ => none
  let settled : Except Interruption Reading := r.settle.mapError .usage
  let plain (interruption : Interruption) : Except Interruption Reading :=
    match value with
    | some value => .error (.usage (.unexpectedValue ("--" ++ name) value))
    | none => do
      let _ ← settled
      throw interruption
  match (flagsOf scope).find? (·.name = name) with
  | some flag => do
    let r ← settled
    match value with
    | none => return { r with pending := some (flag, none) }
    | some value =>
      let settings ← (r.settings.add flag value).mapError .usage
      return { r with settings }
  | none =>
    if name = "help" then plain (.help scope)
    else if name = "version" ∧ scope = none then plain .version
    else .error (.usage (.unexpected ("--" ++ name)))

/-- Reads an option that begins with one dash, of which there are two. -/
def readShort (scope : Scope) (r : Reading) (letter : Char) : Interruption :=
  let settled (interruption : Interruption) : Interruption :=
    match r.settle with
    | .ok _ => interruption
    | .error e => .usage e
  if letter = 'h' then settled (.help scope)
  else if letter = 'V' ∧ scope = none then settled .version
  else .usage (.unexpected ("-" ++ letter.toString))

/-- Reads the arguments within a scope, for the program up to the word that ends its options. -/
def readScope (scope : Scope) (r : Reading) :
    List String → Except Interruption (Reading × Option (Word × List String))
  | [] => .ok (r, none)
  | argument :: rest =>
    let word := if scope = none ∧ !r.awaitsValue then word? argument else none
    match word with
    | some word => .ok (r, some (word, rest))
    | none =>
      match argument.toList with
      | ['-', '-'] =>
        match rest with
        | [] => .ok (r, none)
        | next :: _ => .error (.usage (misplaced scope true next))
      | '-' :: '-' :: body => do
        readScope scope (← readLong scope r (String.ofList body)) rest
      | '-' :: letter :: _ => .error (readShort scope r letter)
      | _ =>
        match r.pending with
        | some (flag, none) => readScope scope { r with pending := some (flag, some argument) } rest
        | _ => .error (.usage (misplaced scope false argument))

structure CostChoice where
  level : Kdf.SecurityLevel
  algorithm : Kdf.Algorithm
  opsLimit : Option Nat
  memLimit : Option Nat
deriving DecidableEq, Repr

inductive Command where
  | keygen (output : Path)
  /-- Seals a file under a key file, or under a password. -/
  | sealFile (input output : Path) (keyFile : Option Path) (cost : CostChoice)
  | openFile (input output : Path) (keyFile : Option Path)
  | inspect (input : Path)
deriving DecidableEq, Repr

structure Invocation where
  logLevel : String
  command : Command
deriving DecidableEq, Repr

/-- The value of an option that is needed. -/
private def need {α : Type} (flag : Flag) : Option α → Except UsageError α
  | some value => .ok value
  | none => .error (.missing [flag])

/-- The command that a name and its options make. -/
def Settings.command (s : Settings) : CommandName → Except UsageError Command
  | .keygen => do return .keygen (← need .output s.output)
  | .sealFile => do
    return .sealFile (← need .input s.input) (← need .output s.output) s.keyFile
      { level := s.level.getD .standard
        algorithm := s.algorithm.getD .recommended
        opsLimit := s.opsLimit
        memLimit := s.memLimit }
  | .openFile => do
    return .openFile (← need .input s.input) (← need .output s.output) s.keyFile
  | .inspect => do return .inspect (← need .input s.input)

/-- Takes the key file from the environment where a command has none, then counts the options that
the command needs. -/
def finish (env : Environment) (name : CommandName) (r : Reading) :
    Except UsageError Settings := do
  let settings := (← r.settle).settings
  let settings ←
    match env.keyFile with
    | some value =>
      if Flag.keyFile ∈ name.optional ∧ !settings.has .keyFile then settings.assign .keyFile value
      else pure settings
    | none => pure settings
  let missing := name.required.filter (!settings.has ·)
  if missing ≠ [] then throw (.missing missing)
  return settings

def helpTopic : List String → Interruption
  | [] => .help none
  | topic :: rest =>
    match word? topic with
    | none => .usage (.unknownCommand topic)
    | some word =>
      match rest with
      | next :: _ => .usage (.unknownCommand next)
      | [] =>
        match word with
        | .command name => .help (some name)
        | .help => .help none

def standardLogLevel : String := "warn"

def parse (env : Environment) (arguments : List String) :
    Except Interruption Invocation := do
  let (outer, word) ← readScope none {} arguments
  match word with
  | none =>
    let outer ← outer.settle.mapError .usage
    if outer.settings.isEmpty then throw .helpNeeded
    throw (.usage .noCommand)
  | some (.help, rest) => throw (helpTopic rest)
  | some (.command name, rest) =>
    let (inner, _) ← readScope (some name) {} rest
    let inner ← (finish env name inner).mapError .usage
    let outer ← outer.settle.mapError .usage
    let command ← (inner.command name).mapError .usage
    return ⟨(inner.logLevel <|> outer.settings.logLevel).getD standardLogLevel, command⟩

end Sealing.CommandLine
