import Mathlib.Logic.Function.Basic
import Sealing.Program.World
/-!
# Programs that take turns

Several programs run on one tree and take turns: each turn is one call of one of them, so that
between two calls of a program the others do whatever they do.  A program that gets no more turns has
stopped for good.  Calls are answered as in a `World`, but for two liberties of a real system: a write
takes as many of its bytes as it likes, and every call may be refused for a reason outside the tree.
-/

namespace Sealing

open FileSystem

namespace Request

/-- The call was refused, and changed nothing. -/
def Refused {α : Type} (before : Tree) (reply : Except SystemError α) (after : Tree) : Prop :=
  (∃ e, reply = .error e) ∧ after = before

/-- What can be replied to a call on a tree, and the tree that the call can leave. -/
def Answers (working : Location) (before : Tree) :
    (r : Request Location) → r.Reply → (after : Tree) → Prop
  | .stat p, reply, after =>
    (reply = before.stat working p ∧ after = before) ∨ Refused before reply after
  | .read p, reply, after =>
    (reply = before.read working p ∧ after = before) ∨ Refused before reply after
  | .makeDirectory p, reply, after =>
    (reply = .ok () ∧ before.makeDirectory working p = .ok after) ∨ Refused before reply after
  | .createNew p mode, reply, after =>
    (∃ l, reply = .ok l ∧ before.createNew working p mode = .ok (l, after)) ∨
      Refused before reply after
  | .write l bytes, reply, after =>
    (∃ taken ≤ bytes.length, reply = .ok taken ∧ after = before.append l (bytes.take taken)) ∨
      Refused before reply after
  | .rename source target, reply, after =>
    (reply = .ok () ∧ before.rename working source target = .ok after) ∨
      Refused before reply after
  | .remove p, reply, after =>
    (reply = .ok () ∧ before.remove working p = .ok after) ∨ Refused before reply after
  | .settle _, _, after => after = before
  | .settleDirectory _, _, after => after = before
  | .random _, _, after => after = before
  | .inputLine, _, after => after = before
  | .report _, _, after => after = before

/-- Whether a call moved a file. -/
def moved {Handle : Type} : (r : Request Handle) → r.Reply → Bool
  | .rename .., .ok () => true
  | _, _ => false

end Request

/-- A call that was made: on which tree, by whom, and what was replied. -/
structure Turn (ι : Type) where
  before : Tree
  who : ι
  request : Request Location
  reply : request.Reply

/-- The tree at each moment, the latest first. -/
def moments {ι : Type} (turns : List (Turn ι)) (now : Tree) : List Tree :=
  now :: turns.map Turn.before

/-- The one whose turn was the last to move a file; the latest turn comes first. -/
def lastMover {ι : Type} (turns : List (Turn ι)) : Option ι :=
  (turns.find? fun turn => turn.request.moved turn.reply).map Turn.who

/-- Programs on a tree, each with what is left of it. -/
structure Shared (ι α : Type) where
  tree : Tree
  rest : ι → Program Location α

namespace Shared

variable {ι α : Type}

/-- What the programs come to by taking turns, the latest turn first. -/
inductive Reaches [DecidableEq ι] (working : Location) (start : Shared ι α) :
    List (Turn ι) → Shared ι α → Prop where
  | start : Reaches working start [] start
  | turn {turns : List (Turn ι)} {s : Shared ι α} {who : ι} {request : Request Location}
      {next : request.Reply → Program Location α} {reply : request.Reply} {after : Tree}
      (before : Reaches working start turns s) (call : s.rest who = .call request next)
      (answers : request.Answers working s.tree reply after) :
      Reaches working start (⟨s.tree, who, request, reply⟩ :: turns)
        ⟨after, Function.update s.rest who (next reply)⟩

end Shared

end Sealing
