import BusLink.Fault.Basic

set_option autoImplicit false

namespace BusLink

namespace RawFailure

def byCondition (raw : RawFailure) : Condition → Fault
  | .serverBusy => .serverBusy raw.description
  | .notFound | .entityNotFound => .entityNotFound raw.description
  | .sessionLockLost => .sessionLockLost raw.description (some (.raw raw))
  | .sessionCannotBeLocked => .sessionCannotBeLocked raw.description
  | .unauthorizedAccess => .authentication raw.description
  | .messageLockLost => .messageLockLost raw.description
  | .messageSizeExceeded => .messageSizeExceeded raw.description
  | .timeout => .operationTimeout raw.description (some (.raw raw))

/-- The wording of a lost connection, which names a custom endpoint if there is one. -/
def lossReason (raw : RawFailure) : Option String → String
  | none => raw.description
  | some endpoint => raw.description ++ " (custom endpoint address: " ++ endpoint ++ ")"

/-- The meaning that its kind gives a failure without a known condition. -/
def byKind (raw : RawFailure) (endpoint : Option String) : Fault :=
  match raw.kind with
  | .timeout => .operationTimeout raw.description (some (.raw raw))
  | .connectionClosed | .sessionEnded | .linkDetached =>
    .connection (raw.lossReason endpoint) (some (.raw raw))
  | .authenticationFailed => .authentication raw.description
  | .protocol => .transport raw.description raw.condition raw.retryable true

def classify (raw : RawFailure) (endpoint : Option String) : Fault :=
  match raw.known? with
  | some condition => raw.byCondition condition
  | none => raw.byKind endpoint

end RawFailure

def Fault.classify (endpoint : Option String) : Fault → Fault
  | .raw failure => failure.classify endpoint
  | fault => fault

end BusLink
