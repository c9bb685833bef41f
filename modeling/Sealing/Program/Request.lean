import Sealing.FileSystem.Calls
import Sealing.Log.Event
import Sealing.FixedBytes
/-!
# Requests to the system

All that a program asks of the world around it, one call at a time, and what each call answers.
`Handle` stands for an open file: its location in a tree, or the system's own handle.
-/

namespace Sealing

open FileSystem (Path Kind)

inductive Request (Handle : Type) where
  /-- What stands at a path, through symbolic links. -/
  | stat (path : Path)
  /-- The content of a file. -/
  | read (path : Path)
  | makeDirectory (path : Path)
  /-- Makes a file where nothing stands yet, with the given permissions, and opens it. -/
  | createNew (path : Path) (mode : Nat)
  /-- Writes to an open file; the answer is how many of the bytes were taken. -/
  | write (handle : Handle) (bytes : List UInt8)
  /-- Makes an open file durable and closes it. -/
  | settle (handle : Handle)
  /-- Moves a file to another path. -/
  | rename (source target : Path)
  | remove (path : Path)
  /-- Makes the entries of a directory durable. -/
  | settleDirectory (path : Path)
  | random (length : Nat)
  /-- The rest of the standard input up to the next line feed, which is included. -/
  | inputLine
  /-- Tells an event to whoever reads the log. -/
  | report (event : Log.Event)

/-- What a call answers. -/
@[reducible] def Request.Reply {Handle : Type} : Request Handle → Type
  | stat _ => Except SystemError Kind
  | read _ => Except SystemError (List UInt8)
  | makeDirectory _ => Except SystemError Unit
  | createNew .. => Except SystemError Handle
  | write .. => Except SystemError Nat
  | settle _ => Except SystemError Unit
  | rename .. => Except SystemError Unit
  | remove _ => Except SystemError Unit
  | settleDirectory _ => Except SystemError Unit
  | random length => Except String (FixedBytes length)
  | inputLine => Except SystemError (List UInt8)
  | report _ => Unit

end Sealing
