import BusLink.Auth.Credential
import BusLink.Configuration
import BusLink.Session

set_option autoImplicit false

namespace BusLink

/-- An open link. The serial number tells the links of one handler apart. -/
structure Link where
  serial : Nat
  name : Option String
deriving DecidableEq, Repr

structure LinkRequest where
  container : String
  host : String
  entityPath : String
  authUri : String
  credential : Auth.Credential
  configuration : Configuration
  properties : Properties
  session : Option Session
deriving Repr

end BusLink
