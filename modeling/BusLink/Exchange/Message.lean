import BusLink.Json.Value

set_option autoImplicit false

namespace BusLink

structure Message where
  body : Json
  properties : Json.Members := []
deriving Repr

structure Request where
  body : Json
  properties : Json.Members
  replyTo : String
deriving Repr

structure Response where
  status : Nat
  description : Option String
  body : Json
  properties : Json.Members
deriving Repr

/-- Where a request goes and how long it may take, in nanoseconds. -/
structure Call where
  operation : String
  operationType : String
  node : List UInt8
  timeout : Option Nat
deriving DecidableEq, Repr

/-- The message as a request with added properties and a return address. -/
def Message.address (message : Message) (added : Json.Members) (replyTo : String) : Request :=
  ⟨message.body, message.properties.merge added, replyTo⟩

end BusLink
