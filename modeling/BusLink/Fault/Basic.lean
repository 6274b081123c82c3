import BusLink.Fault.Raw

set_option autoImplicit false

namespace BusLink

/-- A failure that has a meaning for the caller, or a raw one that has none yet. -/
inductive Fault where
  | connection (reason : String) (cause : Option Fault)
  | serverBusy (reason : String)
  | authentication (reason : String)
  | entityNotFound (reason : String)
  | messageLockLost (reason : String)
  | messageSizeExceeded (reason : String)
  | sessionLockLost (reason : String) (cause : Option Fault)
  | sessionCannotBeLocked (reason : String)
  | operationTimeout (reason : String) (cause : Option Fault)
  | invalidState (reason : String)
  | invalidArgument (reason : String)
  | configuration (reason : String)
  | transport (reason : String) (condition : Option String) (retryable shutsDown : Bool)
  | raw (failure : RawFailure)
  | iterationStopped
  | missingDependency (reason : String)
deriving Repr, Inhabited

namespace Fault

def remediation : String :=
  "If trying to receive from the next available session, " ++
    "use the max wait time option on the receiver to control the timeout."

def lockLostReason : String :=
  "The lock on the session has expired. Callers should request the session again."

def shutDownReason : String :=
  "The handler has already been shutdown. Please use the client to create a new instance."

/-- A timeout that ended a call, with advice and the fault behind it. -/
def withRemediation (last : Fault) : Fault :=
  .operationTimeout remediation (some last)

def lockLost (renewal : Option Fault) : Fault :=
  .sessionLockLost lockLostReason renewal

def shutDown : Fault :=
  .invalidState shutDownReason

def elapsed : Fault :=
  .raw RawFailure.elapsed

/-- Whether another attempt may help. -/
def retryable : Fault → Bool
  | .connection .. | .serverBusy _ | .operationTimeout .. | .sessionCannotBeLocked _ => true
  | .transport _ _ retryable _ => retryable
  | .raw failure => failure.retryable
  | _ => false

/-- Whether the link has to be torn down. -/
def shutsDown : Fault → Bool
  | .connection .. | .sessionCannotBeLocked _ | .authentication _ | .entityNotFound _ => true
  | .raw _ => true
  | .transport _ _ _ shutsDown => shutsDown
  | _ => false

/-- Whether the fault is a signal of the caller that no retry may touch. -/
def isAbort : Fault → Bool
  | .iterationStopped | .missingDependency _ => true
  | _ => false

def isTimeout : Fault → Bool
  | .operationTimeout .. => true
  | _ => false

/-- Whether the fault ends a running session. -/
def endsSession : Fault → Bool
  | .sessionLockLost .. | .connection .. => true
  | _ => false

/-- Whether the fault is a raw failure that nobody has classified. -/
def isRaw : Fault → Bool
  | .raw _ => true
  | _ => false

def isRawTimeout : Fault → Bool
  | .raw failure => failure.isTimeout
  | _ => false

def cause? : Fault → Option Fault
  | .connection _ cause | .sessionLockLost _ cause | .operationTimeout _ cause => cause
  | _ => none

/-- The faults behind this one, from the nearest to the first. -/
def causes : Fault → List Fault
  | .connection _ (some cause) => cause :: causes cause
  | .sessionLockLost _ (some cause) => cause :: causes cause
  | .operationTimeout _ (some cause) => cause :: causes cause
  | _ => []

def message : Fault → String
  | .connection reason _ => "Connection error: " ++ reason
  | .serverBusy reason => "Server busy: " ++ reason
  | .authentication reason => "Authentication failed: " ++ reason
  | .entityNotFound reason => "Messaging entity not found: " ++ reason
  | .messageLockLost reason => "Message lock lost: " ++ reason
  | .messageSizeExceeded reason => "Message size exceeded: " ++ reason
  | .sessionLockLost reason _ => "Session lock lost: " ++ reason
  | .sessionCannotBeLocked reason => "Session cannot be locked: " ++ reason
  | .operationTimeout reason _ => "Operation timeout: " ++ reason
  | .invalidState reason => "Invalid state: " ++ reason
  | .invalidArgument reason => "Invalid argument: " ++ reason
  | .configuration reason => "Configuration error: " ++ reason
  | .transport reason .. => "Transport error: " ++ reason
  | .raw failure => failure.message
  | .iterationStopped => "Iteration stopped"
  | .missingDependency reason => "Missing dependency: " ++ reason

/-- The fault that ends a call: a timeout gets advice, every other fault stays as it is. -/
def terminal (fault : Fault) : Fault :=
  if fault.isTimeout then fault.withRemediation else fault

def name : Fault → String
  | .connection .. => "Connection"
  | .serverBusy _ => "ServerBusy"
  | .authentication _ => "Authentication"
  | .entityNotFound _ => "EntityNotFound"
  | .messageLockLost _ => "MessageLockLost"
  | .messageSizeExceeded _ => "MessageSizeExceeded"
  | .sessionLockLost .. => "SessionLockLost"
  | .sessionCannotBeLocked _ => "SessionCannotBeLocked"
  | .operationTimeout .. => "OperationTimeout"
  | .invalidState _ => "InvalidState"
  | .invalidArgument _ => "InvalidArgument"
  | .configuration _ => "ConfigurationError"
  | .transport .. => "Transport"
  | .raw _ => "Amqp"
  | .iterationStopped => "IterationStopped"
  | .missingDependency _ => "MissingDependency"

/-- What diagnostics show of a fault, given what they show of its cause. -/
def describeWith (fault : Fault) (cause : String) : String :=
  match fault with
  | .connection reason _ | .sessionLockLost reason _ | .operationTimeout reason _ =>
    Text.record fault.name [Text.field "message" (Text.quoted reason), Text.field "caused_by" cause]
  | .serverBusy reason | .authentication reason | .entityNotFound reason | .messageLockLost reason
  | .messageSizeExceeded reason | .sessionCannotBeLocked reason =>
    Text.record fault.name [Text.field "message" (Text.quoted reason)]
  | .invalidState reason | .invalidArgument reason | .configuration reason
  | .missingDependency reason => fault.name ++ "(" ++ Text.quoted reason ++ ")"
  | .transport reason condition retryable shutsDown =>
    Text.record fault.name
      [Text.field "message" (Text.quoted reason),
        Text.field "condition" (Text.quotedOption condition),
        Text.field "retryable" (Text.flag retryable),
        Text.field "shutdown_handler" (Text.flag shutsDown)]
  | .raw failure => fault.name ++ "(" ++ failure.describe ++ ")"
  | .iterationStopped => fault.name

def describe (fault : Fault) : String :=
  fault.describeWith <|
    fault.causes.foldr (fun cause shown => Text.optional (some (cause.describeWith shown)))
      (Text.optional none)

end Fault
end BusLink
