import BusLink.Event
import BusLink.Exchange.Message
import BusLink.Link
import BusLink.Time.Activity

set_option autoImplicit false

namespace BusLink

/-- What an attempt is told about the call that it belongs to. -/
structure Retry.Context where
  attempt : UInt32
  -- What is left of the budget, in nanoseconds, if there is one.
  remaining : Option Nat
  lastFault : Option Fault
deriving Repr

/-- A thing that happened in a run. -/
inductive Note where
  | event (event : Event)
  | attempt (context : Retry.Context)
  | judged (fault : Fault)
  | linkRequested (request : LinkRequest)
  | linkGranted (link : Link)
  | linkRefused (fault : Fault)
  | linkClosing (link : Link)
  -- A link is gone, with the fault of closing it if there was one.
  | linkReleased (link : Link) (fault : Option Fault)
  | sent (link : Link) (request : Request) (call : Call)
  | answered (response : Response)
deriving Repr

namespace Note

def event? : Note → Option Event
  | .event report => some report
  | _ => none

end Note

/-- The events among notes, in order. -/
def eventsOf (notes : List (Stamped Note)) : List Event :=
  notes.filterMap (·.what.event?)

@[simp] theorem eventsOf_append (first second : List (Stamped Note)) :
    eventsOf (first ++ second) = eventsOf first ++ eventsOf second := by
  simp [eventsOf]

end BusLink
