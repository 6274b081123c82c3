import BusLink.Retry.Policy

set_option autoImplicit false

namespace BusLink

inductive Transport where
  | amqp
  | amqpOverWebsocket
deriving DecidableEq, Repr, Inhabited

namespace Transport

def name : Transport → String
  | .amqp => "amqp"
  | .amqpOverWebsocket => "amqp_over_websocket"

def ofName? (name : String) : Option Transport :=
  if name = "amqp" then some .amqp
  else if name = "amqp_over_websocket" then some .amqpOverWebsocket
  else none

/-- Reads a transport in any case of its letters, with blanks around it; the longer name may be
written without its underscores. -/
def read (text : String) : Except String Transport :=
  let name := Text.lower (Text.trim text)
  match ofName? name with
  | some transport => .ok transport
  | none =>
    if name = "amqpoverwebsocket" then .ok .amqpOverWebsocket
    else .error ("unknown transport type '" ++ name ++ "'")

theorem ofName?_name (transport : Transport) : ofName? transport.name = some transport := by
  cases transport <;> rfl

end Transport

structure Options where
  transport : Transport := .amqp
  retries : UInt32 := 3
  retryMode : Retry.Mode := .exponential
  waitUnit : Binary64 := Binary64.ofRatio false 8 10
  longestWait : Binary64 := Binary64.ofNat 120
  encoding : String := "UTF-8"
  userAgent : Option String := none
  customEndpoint : Option String := none
  -- The subscription of the entity that is meant instead of the entity.
  subscription : Option String := none
deriving DecidableEq, Repr

end BusLink
