import Sealing.Log.Directive
/-!
# Log filters

A filter is a list of directives between commas.  Of those that speak of an event the one that asks
for most decides whether it is shown, and of several that ask for the same the last.
-/

namespace Sealing.Log

structure Filter where
  directives : List Directive
deriving DecidableEq, Repr

namespace Filter

/-- The parts of a filter, of which empty ones do not count. -/
private def parts (s : String) : List String :=
  (s.splitOn ",").filter (· ≠ "")

/-- Reads a filter of which every part is a directive. -/
def ofText (s : String) : Except DirectiveFault Filter :=
  Filter.mk <$> (parts s).mapM Directive.ofText

/-- Reads a filter and leaves out the parts that are no directives, with a warning on each. -/
def ofTextLossy (s : String) : Filter × List String :=
  let read := (parts s).map fun part => (part, Directive.ofText part)
  (⟨read.filterMap fun r => r.2.toOption⟩,
    read.filterMap fun r =>
      match r.2 with
      | .ok _ => none
      | .error fault =>
        let part := r.1
        some (s!"ignoring `{part}`: " ++ fault.message))

/-- The directive that decides on an event, if one speaks of it. -/
def deciding? (f : Filter) (event : Event) : Option Directive :=
  match f.directives.filter (·.concerns event) with
  | [] => none
  | d :: ds => some (ds.foldl Directive.stronger d)

/-- Whether an event is shown.  Where no directive speaks of it, it is not; a filter without
directives shows errors. -/
def shows (f : Filter) (event : Event) : Bool :=
  if f.directives = [] then event.level = .error
  else
    match (f.deciding? event).bind (·.threshold) with
    | some level => level.severity ≤ event.level.severity
    | none => false

end Filter

end Sealing.Log
