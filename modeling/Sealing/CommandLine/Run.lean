import Sealing.CommandLine.Password
import Sealing.SealedFile
import Sealing.Storage
/-!
# The commands

Each command is a program that ends with the text for the standard output or with a failure.  A new
key or sealed file never takes the place of what stands at its path already; a plaintext does, once
it is authentic.
-/

namespace Sealing.CommandLine

open FileSystem (Path)

variable {Handle : Type}

/-- A task of the library as a step of a command. -/
def step {α : Type} (task : Task Handle Error α) : Task Handle Failure α :=
  ExceptT.adapt Failure.ofError task

/-- A task of the library as a step of a command, with the words for its failure. -/
def stepWithin {α : Type} (context : String) (task : Task Handle Error α) :
    Task Handle Failure α :=
  ExceptT.adapt (fun e => (Failure.ofError e).within context) task

def readInput (path : Path) : Task Handle Failure (List UInt8) :=
  stepWithin ("failed to read " ++ path.text) (Storage.load ⟨path⟩)

def readKey (path : Path) : Task Handle Failure Key := do
  let bytes ← stepWithin ("failed to read key file " ++ path.text) (Storage.load ⟨path⟩)
  stepWithin "invalid key file" (ExceptT.mk (pure (Key.ofList bytes)))

/-- Refuses a path where something stands already. -/
def expectFresh (path : Path) : Task Handle Failure Unit := do
  if ← ExceptT.lift (Storage.isPresent ⟨path⟩) then
    throw (.plain (path.text ++ " already exists"))

/-- The cost of a seal: the limits that were chosen, and those of the level for the rest. -/
def CostChoice.config (c : CostChoice) : Except Error Kdf.Config :=
  let preset := Kdf.Config.preset c.level c.algorithm
  Kdf.Config.new c.algorithm (c.opsLimit.getD preset.opsLimit) (c.memLimit.getD preset.memLimit)

def randomNonce : Task Handle Error Nonce :=
  Nonce.mk <$> Task.random 24

/-- Writes what a task makes to a path where nothing stands yet. -/
def writeFresh (output : Path) (content : Task Handle Failure (List UInt8)) (done : String) :
    Task Handle Failure String := do
  expectFresh output
  let bytes ← content
  step (Storage.save ⟨output⟩ bytes)
  return done

def keyContent : Task Handle Failure (List UInt8) :=
  Key.toList <$> step (Key.mk <$> Task.random 32)

def runKeygen (output : Path) : Task Handle Failure String :=
  writeFresh output keyContent ("key written to " ++ output.text ++ "\n")

/-- Seals a message under a key file, or under a password if there is none. -/
def sealMessage (env : Environment) (keyFile : Option Path) (cost : CostChoice)
    (message : List UInt8) : Task Handle Failure (List UInt8) := do
  match keyFile with
  | some path =>
    let key ← readKey path
    step do
      let nonce ← randomNonce
      Task.ofOutcome (SealedFile.sealWithKey nonce key message)
  | none =>
    let config ← step (ExceptT.mk (pure cost.config))
    let password ← readPassword env
    step do
      let nonce ← randomNonce
      Task.ofOutcome (SealedFile.sealWithPassword nonce password config message)

def sealContent (env : Environment) (input : Path) (keyFile : Option Path) (cost : CostChoice) :
    Task Handle Failure (List UInt8) := do
  let message ← readInput input
  sealMessage env keyFile cost message

def runSeal (env : Environment) (input output : Path) (keyFile : Option Path)
    (cost : CostChoice) : Task Handle Failure String :=
  writeFresh output (sealContent env input keyFile cost)
    ("sealed " ++ input.text ++ " -> " ++ output.text ++ "\n")

/-- The secret to open a file with: the key file if there is one, else the password if the file was
sealed under one. -/
def readSecret (env : Environment) (input : Path) (keyFile : Option Path) (report : Report) :
    Task Handle Failure Secret := do
  match keyFile with
  | some path => return .key (← readKey path)
  | none =>
    match report.kdf with
    | some _ => return .password (← readPassword env)
    | none => throw (.plain (input.text ++ " was sealed with a key; pass --key-file"))

def runOpen (env : Environment) (input output : Path) (keyFile : Option Path) :
    Task Handle Failure String := do
  let data ← readInput input
  let report ← step (ExceptT.mk (pure (Report.inspect data)))
  let secret ← readSecret env input keyFile report
  match ← step (Task.ofOutcome (SealedFile.openWith secret data)) with
  | none =>
    throw (.plain "authentication failed: wrong password/key or corrupted data")
  | some message =>
    step (Storage.save ⟨output⟩ message)
    return "opened " ++ input.text ++ " -> " ++ output.text ++ "\n"

def runInspect (input : Path) : Task Handle Failure String := do
  let data ← readInput input
  let report ← step (ExceptT.mk (pure (Report.inspect data)))
  return report.toJson.pretty ++ "\n"

def Command.program (env : Environment) : Command → Task Handle Failure String
  | .keygen output => runKeygen output
  | .sealFile input output keyFile cost => runSeal env input output keyFile cost
  | .openFile input output keyFile => runOpen env input output keyFile
  | .inspect input => runInspect input

end Sealing.CommandLine
