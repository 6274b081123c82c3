import BusLink.Number.Binary64
import BusLink.Text.Blank

set_option autoImplicit false

namespace BusLink.Retry

/-- How the wait grows from retry to retry. -/
inductive Mode where
  | fixed
  | exponential
deriving DecidableEq, Repr, Inhabited

namespace Mode

def name : Mode → String
  | .fixed => "fixed"
  | .exponential => "exponential"

def ofName? (name : String) : Option Mode :=
  if name = "fixed" then some .fixed
  else if name = "exponential" then some .exponential
  else none

def read (text : String) : Except String Mode :=
  let name := Text.lower (Text.trim text)
  match ofName? name with
  | some mode => .ok mode
  | none => .error ("unknown retry mode '" ++ name ++ "'")

theorem ofName?_name (mode : Mode) : ofName? mode.name = some mode := by
  cases mode <;> rfl

end Mode

structure Policy where
  -- How many attempts may follow the first one.
  retries : UInt32
  mode : Mode
  -- The wait, or the unit from which it doubles, in seconds.
  unit : Binary64
  longest : Binary64
deriving DecidableEq, Repr

namespace Policy

/-- The wait that the mode asks for, before it is brought into bounds. -/
def unbounded (policy : Policy) (retry : UInt32) : Binary64 :=
  match policy.mode with
  | .fixed => policy.unit
  | .exponential => policy.unit.timesPower retry.toNat

/-- The wait before a retry in seconds, between zero and the longest wait. A longest wait that is
negative or no number counts as zero. -/
def backoff (policy : Policy) (retry : UInt32) : Binary64 :=
  (policy.unbounded retry).clampTo policy.longest.orZero

/-- The wait before a retry in nanoseconds; one of 2^64 seconds or more is no wait at all. -/
def delay (policy : Policy) (retry : UInt32) : Nat :=
  (policy.backoff retry).nanoseconds?.getD 0

/-- Whether the wait before a retry respects the longest wait as it was given. -/
def admits (policy : Policy) (retry : UInt32) : Bool :=
  (policy.backoff retry).le policy.longest

end Policy
end BusLink.Retry
