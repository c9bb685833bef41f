import Sealing.Log.Event
/-!
# Outcomes

A call of the library leaves a result and the events that it reported on the way.  Events reported
before an error stay.
-/

namespace Sealing

/-- The result of a call, with the events that it reported, in order. -/
structure Outcome (α : Type) where
  events : List Log.Event
  result : Except Error α

namespace Outcome

variable {α β : Type}

/-- A result without events. -/
def ofExcept (result : Except Error α) : Outcome α := ⟨[], result⟩

def report (event : Log.Event) : Outcome Unit := ⟨[event], .ok ()⟩

def fail (error : Error) : Outcome α := ⟨[], .error error⟩

instance : Monad Outcome where
  pure a := ⟨[], .ok a⟩
  bind x f :=
    match x.result with
    | .error e => ⟨x.events, .error e⟩
    | .ok a => ⟨x.events ++ (f a).events, (f a).result⟩

instance : MonadLift (Except Error) Outcome := ⟨ofExcept⟩

instance : MonadExcept Error Outcome where
  throw := fail
  tryCatch x handler :=
    match x.result with
    | .ok _ => x
    | .error e => ⟨x.events ++ (handler e).events, (handler e).result⟩

end Outcome

end Sealing
