import BusLink.Environment
import BusLink.Fault.Basic
import BusLink.Options.Basic

set_option autoImplicit false

namespace BusLink.Options

/-- A value from the environment, or the one that is there already. -/
def overlaid {α : Type} (environment : Environment) (read : String → Except String α)
    (name : String) (base : α) : Except Fault α :=
  match environment.parsed? read name with
  | .ok value => .ok (value.getD base)
  | .error problem => .error (.configuration problem.message)

def withEnvironment (environment : Environment) (base : Options) : Except Fault Options := do
  let retries ←
    overlaid environment Environment.readWord "SERVICEBUS_RETRY_TOTAL" base.retries
  let retryMode ← overlaid environment Retry.Mode.read "SERVICEBUS_RETRY_MODE" base.retryMode
  let waitUnit ← overlaid environment Environment.readBinary64
    "SERVICEBUS_RETRY_BACKOFF_FACTOR" base.waitUnit
  let longestWait ←
    overlaid environment Environment.readBinary64 "SERVICEBUS_RETRY_BACKOFF_MAX" base.longestWait
  let transport ←
    overlaid environment Transport.read "SERVICEBUS_TRANSPORT_TYPE" base.transport
  return { base with
    retries, retryMode, waitUnit, longestWait, transport
    customEndpoint :=
      environment.text? "SERVICEBUS_CUSTOM_ENDPOINT_ADDRESS" <|> base.customEndpoint
    userAgent := environment.text? "SERVICEBUS_USER_AGENT" <|> base.userAgent }

def ofEnvironment (environment : Environment) : Except Fault Options :=
  withEnvironment environment {}

end BusLink.Options
