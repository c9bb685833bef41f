import Sealing.Program.Basic
/-!
# Programs on a directory tree

A world holds a tree, a working directory, the standard input, the random bytes to come and the log.
Every call has its effect on it, so that running a program in a world is a function.
-/

namespace Sealing

open FileSystem

structure World where
  tree : Tree
  working : Location
  /-- What is left of the standard input. -/
  input : List UInt8
  /-- The random bytes to come. -/
  random : Nat → UInt8
  /-- The events told so far, in order. -/
  events : List Log.Event

namespace World

/-- A random string of bytes is the next ones to come. -/
def draw (w : World) (length : Nat) : FixedBytes length :=
  ⟨(List.range length).map w.random, by simp⟩

/-- The first line of the input, with the line feed that ends it, and the rest. -/
def splitLine : List UInt8 → List UInt8 × List UInt8
  | [] => ([], [])
  | b :: bs =>
    if b = 10 then ([b], bs)
    else
      let (line, rest) := splitLine bs
      (b :: line, rest)

/-- A tree that a call made, or the refusal. -/
def changed (w : World) (result : Except SystemError Tree) :
    Except SystemError Unit × World :=
  match result with
  | .ok t => (.ok (), { w with tree := t })
  | .error e => (.error e, w)

@[simp] theorem changed_error (w : World) (e : SystemError) :
    w.changed (.error e) = (.error e, w) := rfl

/-- The reply to a call, and the world after it. -/
def answer (w : World) : (r : Request Location) → r.Reply × World
  | .stat p => (w.tree.stat w.working p, w)
  | .read p => (w.tree.read w.working p, w)
  | .makeDirectory p => w.changed (w.tree.makeDirectory w.working p)
  | .createNew p mode =>
    match w.tree.createNew w.working p mode with
    | .ok (l, t) => (.ok l, { w with tree := t })
    | .error e => (.error e, w)
  | .write l bytes => (.ok bytes.length, { w with tree := w.tree.append l bytes })
  | .settle _ => (.ok (), w)
  | .rename source target => w.changed (w.tree.rename w.working source target)
  | .remove p => w.changed (w.tree.remove w.working p)
  | .settleDirectory p => ((w.tree.resolve w.working p).map fun _ => (), w)
  | .random length => (.ok (w.draw length), { w with random := fun i => w.random (length + i) })
  | .inputLine =>
    let (line, rest) := splitLine w.input
    (.ok line, { w with input := rest })
  | .report event => ((), { w with events := w.events ++ [event] })

end World

def Program.run {α : Type} : Program Location α → World → α × World
  | done a, w => (a, w)
  | call r next, w =>
    let (reply, w) := w.answer r
    (next reply).run w

end Sealing
