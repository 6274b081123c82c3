import BusLink.Fault.Basic
import BusLink.Time.Date

set_option autoImplicit false

namespace BusLink

/-- What is known about a session and its lock. Instants are seconds of the wall clock. -/
structure Session where
  id : String
  lockLost : Bool := false
  lockedUntil : Option Int := none
  renewFault : Option Fault := none
deriving Repr

namespace Session

def loseLock (session : Session) : Session :=
  { session with lockLost := true }

def lockUntil (session : Session) (second : Int) : Session :=
  { session with lockedUntil := some second }

def failRenewal (session : Session) (fault : Fault) : Session :=
  { session with renewFault := some fault }

def isExpired (session : Session) (second : Int) : Bool :=
  session.lockedUntil.any (· ≤ second)

def isHeld (session : Session) (second : Int) : Bool :=
  !session.lockLost && !session.isExpired second

def recorded (shown : Option String) : String :=
  Text.record "Mutex"
    [Text.field "data" (Text.optional shown), Text.field "poisoned" (Text.flag false), ".."]

/-- What diagnostics show of a session. -/
def describe (session : Session) : String :=
  Text.record "SessionState"
    [Text.field "session_id" (Text.quoted session.id),
      Text.field "lock_lost" (Text.flag session.lockLost),
      Text.field "locked_until" (recorded (session.lockedUntil.map Date.instantText)),
      Text.field "auto_renew_error" (recorded (session.renewFault.map Fault.describe))]

end Session
end BusLink
