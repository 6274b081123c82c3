import BusLink.Note
import BusLink.Retry.Policy

set_option autoImplicit false

namespace BusLink.Retry

/-- What a call demands of its attempts. -/
structure Terms where
  -- The time for all attempts together, in nanoseconds.
  budget : Option Nat := none
  requiresBudget : Bool := false
  recallsFault : Bool := false
deriving DecidableEq, Repr

namespace Terms

def bounded (budget : Option Nat) : Terms :=
  ⟨budget, true, false⟩

/-- The instant by which a call that starts now has to be over. An empty budget sets none. -/
def deadline? (terms : Terms) (start : Nat) : Option Nat :=
  match terms.requiresBudget, terms.budget with
  | true, some budget => if budget = 0 then none else some (start + budget)
  | _, _ => none

end Terms

/-- How a run ends: with a result, or without one where it reckons with an instant that the clock
cannot tell. -/
inductive Ending (α : Type) where
  | result (value : Except Fault α)
  | brokenOff

def Ending.result? {α : Type} : Ending α → Option (Except Fault α)
  | .result value => some value
  | .brokenOff => none

structure Job (σ α : Type) where
  clock : Clock
  policy : Policy
  entity : String
  terms : Terms
  -- Judges a fault: a fault that comes back well may be retried, an error ends the call.
  judge : Fault → Activity Note σ (Except Fault Fault)
  attempt : Context → Activity Note σ (Except Fault α)

namespace Job

variable {σ α : Type}

def report (event : Event) : Activity Note σ Unit :=
  Activity.note (.event event)

@[simp] theorem report_apply (event : Event) (now : Nat) (state : σ) :
    (report event : Activity Note σ Unit) now state = ⟨(), 0, [⟨now, .event event⟩], state⟩ := rfl

def context (job : Job σ α) (deadline : Option Nat) (retried : UInt32) (last : Option Fault)
    (now : Nat) : Context where
  attempt := retried
  remaining := deadline.map (· - now)
  lastFault := if job.terms.recallsFault then last else none

/-- Whether the wait before a retry is allowed now. -/
def mayWait (job : Job σ α) (deadline : Option Nat) (retry : UInt32) (now : Nat) : Bool :=
  job.policy.admits retry && deadline.all (now + job.policy.delay retry ≤ ·)

/-- Whether the end of the wait before a retry cannot be told, which matters only where it has to be
compared with a deadline. -/
def overflows (job : Job σ α) (deadline : Option Nat) (retry : UInt32) (now : Nat) : Bool :=
  deadline.isSome && !job.clock.tells (now + job.policy.delay retry)

/-- What follows a fault that was judged worth a retry: the end of the run, or nothing when the wait
before the retry is over. -/
def settle (job : Job σ α) (deadline : Option Nat) (retry : UInt32) (fault : Fault) :
    Activity Note σ (Option (Ending α)) := do
  let now ← Activity.now
  if job.policy.retries < retry then
    report (.retryExhausted job.entity retry fault)
    return some (.result (.error fault.terminal))
  else if job.overflows deadline retry now then
    return some .brokenOff
  else if job.mayWait deadline retry now then
    report (.retrying job.entity retry (job.policy.delay retry) fault)
    Activity.wait job.clock (job.policy.delay retry)
    return none
  else
    report (.retryTimedOut job.entity fault)
    return some (.result (.error fault.terminal))

/-- At most so many rounds of a run, from an attempt number and the fault before it; `none` if they
do not bring the run to its end. -/
def rounds (job : Job σ α) (deadline : Option Nat) :
    Nat → UInt32 → Option Fault → Activity Note σ (Option (Ending α))
  | 0, _, _ => return none
  | left + 1, retried, last => do
    let now ← Activity.now
    let context := job.context deadline retried last now
    Activity.note (.attempt context)
    match ← job.attempt context with
    | .ok value => return some (.result (.ok value))
    | .error fault =>
      if fault.isAbort then
        return some (.result (.error fault))
      else
        Activity.note (.judged fault)
        match ← job.judge fault with
        | .error verdict => return some (.result (.error verdict))
        | .ok fault =>
          match ← job.settle deadline (retried + 1) fault with
          | some ending => return some ending
          | none => job.rounds deadline left (retried + 1) (some fault)

def starts (job : Job σ α) (start : Nat) : Bool :=
  (job.terms.deadline? start).all job.clock.tells

def runFor (job : Job σ α) (count : Nat) : Activity Note σ (Option (Ending α)) := do
  let start ← Activity.now
  if job.starts start then
    job.rounds (job.terms.deadline? start) count 0 none
  else
    return some .brokenOff

/-- Runs a job to its end, which takes one round more than it has retries. The answer is `none` if
the run breaks off, and for the largest number of retries, when every round fails and the count
starts over. -/
def run (job : Job σ α) : Activity Note σ (Option (Except Fault α)) := do
  return (← job.runFor (job.policy.retries.toNat + 1)).bind Ending.result?

end Job
end BusLink.Retry
