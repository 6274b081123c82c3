import BusLink.Text.Quoted

set_option autoImplicit false

namespace BusLink

/-- What the transport was doing when it failed. -/
inductive RawFailure.Kind where
  | timeout
  | connectionClosed
  | sessionEnded
  | linkDetached
  | authenticationFailed
  | protocol
deriving DecidableEq, Repr

/-- The conditions by which the service names a failure and that decide its meaning. -/
inductive RawFailure.Condition where
  | serverBusy
  | notFound
  | entityNotFound
  | sessionLockLost
  | sessionCannotBeLocked
  | unauthorizedAccess
  | messageLockLost
  | messageSizeExceeded
  | timeout
deriving DecidableEq, Repr

/-- A failure as the transport reports it. -/
structure RawFailure where
  kind : RawFailure.Kind
  -- The symbolic condition sent by the service, known or not.
  condition : Option String
  description : String
  -- The transport's own opinion on whether another try may help.
  retryable : Bool
deriving DecidableEq, Repr

namespace RawFailure

namespace Kind

def all : List Kind :=
  [.timeout, .connectionClosed, .sessionEnded, .linkDetached, .authenticationFailed, .protocol]

def text : Kind → String
  | .timeout => "timeout"
  | .connectionClosed => "connection closed"
  | .sessionEnded => "session ended"
  | .linkDetached => "link detached"
  | .authenticationFailed => "authentication failed"
  | .protocol => "protocol"

def name : Kind → String
  | .timeout => "Timeout"
  | .connectionClosed => "ConnectionClosed"
  | .sessionEnded => "SessionEnded"
  | .linkDetached => "LinkDetached"
  | .authenticationFailed => "AuthenticationFailed"
  | .protocol => "Protocol"

def ofText? (text : String) : Option Kind :=
  all.find? fun kind => kind.text = text

/-- Kinds that took the connection, the session or the link down. -/
def isLoss : Kind → Bool
  | .connectionClosed | .sessionEnded | .linkDetached => true
  | _ => false

/-- Kinds that are worth another try unless the transport says otherwise. -/
def isTransient (kind : Kind) : Bool :=
  kind = .timeout || kind.isLoss

end Kind

namespace Condition

def all : List Condition :=
  [.serverBusy, .notFound, .entityNotFound, .sessionLockLost, .sessionCannotBeLocked,
    .unauthorizedAccess, .messageLockLost, .messageSizeExceeded, .timeout]

def symbol : Condition → String
  | .serverBusy => "com.microsoft:server-busy"
  | .notFound => "amqp:not-found"
  | .entityNotFound => "com.microsoft:entity-not-found"
  | .sessionLockLost => "com.microsoft:session-lock-lost"
  | .sessionCannotBeLocked => "com.microsoft:session-cannot-be-locked"
  | .unauthorizedAccess => "amqp:unauthorized-access"
  | .messageLockLost => "com.microsoft:message-lock-lost"
  | .messageSizeExceeded => "amqp:link:message-size-exceeded"
  | .timeout => "com.microsoft:timeout"

def ofSymbol? (symbol : String) : Option Condition :=
  all.find? fun condition => condition.symbol = symbol

theorem ofSymbol?_symbol (condition : Condition) : ofSymbol? condition.symbol = some condition := by
  cases condition <;> rfl

theorem symbol_of_ofSymbol? {symbol : String} {condition : Condition}
    (known : ofSymbol? symbol = some condition) : condition.symbol = symbol := by
  simpa using List.find?_some known

end Condition

/-- A failure of a kind without condition, retryable as its kind suggests. -/
def ofKind (kind : Kind) (description : String) : RawFailure :=
  ⟨kind, none, description, kind.isTransient⟩

/-- The failure of a timer that ran out before the answer came. -/
def elapsed : RawFailure :=
  ofKind .timeout "deadline has elapsed"

def isTimeout (raw : RawFailure) : Bool :=
  raw.kind = .timeout

/-- Whether the failure took the connection, the session or the link down. -/
def isConnectionLoss (raw : RawFailure) : Bool :=
  raw.kind.isLoss

def known? (raw : RawFailure) : Option Condition :=
  raw.condition.bind Condition.ofSymbol?

/-- The wording of a failure. -/
def message (raw : RawFailure) : String :=
  "AMQP " ++ raw.kind.text ++ " error: " ++ raw.description

/-- What diagnostics show of a raw failure. -/
def describe (raw : RawFailure) : String :=
  Text.record "AmqpError"
    [Text.field "kind" raw.kind.name, Text.field "condition" (Text.quotedOption raw.condition),
      Text.field "description" (Text.quoted raw.description),
      Text.field "retryable" (Text.flag raw.retryable)]

end RawFailure
end BusLink
