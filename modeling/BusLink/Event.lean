import BusLink.Fault.Basic
import BusLink.Time.Clock

set_option autoImplicit false

namespace BusLink

/-- Something worth reporting. Delays are in nanoseconds. -/
inductive Event where
  | linkOpened (container entityPath : String)
  | linkClosed (container : String)
  /-- The link did not close cleanly; it is gone all the same. -/
  | linkCloseFailed (container : String) (fault : Fault)
  | managementRequest (container operation node : String)
  | retrying (entity : String) (attempt : UInt32) (delay : Nat) (fault : Fault)
  /-- No retry is left. -/
  | retryExhausted (entity : String) (attempts : UInt32) (fault : Fault)
  | retryTimedOut (entity : String) (fault : Fault)
  | sessionLockLost (container session : String) (fault : Fault)
deriving Repr

namespace Event

inductive Level where
  | debug
  | info
  | warn
deriving DecidableEq, Repr

def Level.text : Level → String
  | .debug => "DEBUG"
  | .info => "INFO"
  | .warn => "WARN"

/-- How loud an event is reported. -/
def level : Event → Level
  | .linkOpened .. | .linkClosed _ | .managementRequest .. => .debug
  | .retrying .. | .retryExhausted .. | .retryTimedOut .. => .info
  | .linkCloseFailed .. | .sessionLockLost .. => .warn

def count (value : UInt32) : String :=
  String.ofList (Numeral.natural value.toNat)

def message : Event → String
  | .linkOpened container entityPath =>
    container ++ " opened link to '" ++ entityPath ++ "'"
  | .linkClosed container =>
    container ++ " closed its link"
  | .linkCloseFailed container fault =>
    container ++ " failed to close its link cleanly: " ++ fault.message
  | .managementRequest container operation node =>
    container ++ " sending management operation '" ++ operation ++ "' to " ++ node
  | .retrying entity attempt delay fault =>
    entity ++ " has an exception (" ++ fault.message ++ "). Retrying attempt " ++ count attempt ++
      " in " ++ Clock.amountText delay ++ "..."
  | .retryExhausted entity attempts fault =>
    entity ++ " operation has exhausted retry after " ++ count attempts ++
      " attempts. Last exception: " ++ fault.message ++ "."
  | .retryTimedOut entity fault =>
    entity ++ " operation has timed out. Last exception before timeout is (" ++ fault.message ++ ")"
  | .sessionLockLost container session fault =>
    container ++ " lost the lock on session '" ++ session ++ "': " ++ fault.message ++
      ". A new session receiver is required."

def logLine (event : Event) : String :=
  event.level.text ++ " " ++ event.message

end Event
end BusLink
