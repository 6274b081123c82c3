import BusLink.Handler.Basic
import BusLink.Retry.Run

set_option autoImplicit false

namespace BusLink.Handler

variable {τ α : Type}

abbrev Act (τ α : Type) := Activity Note (State τ) α

def report (event : Event) : Act τ Unit :=
  Activity.note (.event event)

@[simp] theorem report_apply (event : Event) (now : Nat) (state : State τ) :
    (report event : Act τ Unit) now state = ⟨(), 0, [⟨now, .event event⟩], state⟩ := rfl

def ask (activity : Activity Empty τ α) : Act τ α :=
  Activity.onPart State.outside (fun outside state => { state with outside }) activity

/-- The fault that keeps a handler in a state from being used at a second of the wall clock. -/
def obstacle? (state : State τ) (second : Int) : Option Fault :=
  if state.shutdown then some .shutDown
  else match state.session with
    | none => none
    | some session => if session.isHeld second then none else some (.lockLost session.renewFault)

def ensureUsable (handler : Handler τ) : Act τ (Except Fault Unit) := do
  let state ← Activity.current
  let now ← Activity.now
  match obstacle? state (handler.outside.wallClock now) with
  | some fault => return .error fault
  | none => return .ok ()

def State.hold (state : State τ) (name : Option String) : State τ :=
  { state with
    link := some ⟨state.opened, name⟩
    running := true
    opened := state.opened + 1 }

def openLink (handler : Handler τ) : Act τ (Except Fault Unit) := do
  let state ← Activity.current
  if state.shutdown then
    return .error .shutDown
  else if state.running && state.link.isSome then
    return .ok ()
  else
    let request := handler.linkRequest state.session
    Activity.note (.linkRequested request)
    match ← ask (handler.outside.createLink request) with
    | .error fault =>
      Activity.note (.linkRefused fault)
      return .error fault
    | .ok name =>
      Activity.update (State.hold · name)
      Activity.note (.linkGranted ⟨state.opened, name⟩)
      report (.linkOpened handler.container handler.entityPath)
      return .ok ()

/-- Tears the link down, if there is one. A failure to close it is reported and nothing more. -/
def dropLink (handler : Handler τ) : Act τ Unit := do
  let state ← Activity.current
  match state.link with
  | none => Activity.update ({ · with running := false })
  | some link =>
    Activity.update ({ · with link := none })
    Activity.note (.linkClosing link)
    match ← ask (handler.outside.closeLink link) with
    | .ok () =>
      Activity.note (.linkReleased link none)
      report (.linkClosed handler.container)
    | .error fault =>
      Activity.note (.linkReleased link (some fault))
      report (.linkCloseFailed handler.container fault)
    Activity.update ({ · with running := false })

def shutDown (handler : Handler τ) : Act τ Unit := do
  handler.dropLink
  Activity.update ({ · with shutdown := true })

def loseLock : Act τ Unit :=
  Activity.update fun state => { state with session := state.session.map Session.loseLock }

/-- Drops the link if a classified fault calls for it, and says whether it may be retried. -/
def settle (handler : Handler τ) (fault : Fault) : Act τ (Except Fault Fault) := do
  if fault.shutsDown then
    handler.dropLink
  return if fault.retryable then .ok fault else .error fault

/-- Judges a fault: gives it its meaning and does to the link and the session what it calls for. A
fault that comes back well may be retried. -/
def judge (handler : Handler τ) (fault : Fault) : Act τ (Except Fault Fault) := do
  let fault := handler.outside.classify handler.configuration.customEndpoint fault
  let state ← Activity.current
  match state.session with
  | some session =>
    if state.running && fault.endsSession then
      loseLock
      report (.sessionLockLost handler.container session.id fault)
      handler.dropLink
      return .error fault
    else
      handler.settle fault
  | none => handler.settle fault

/-- Runs attempts under the retry policy of the handler. -/
def retried (handler : Handler τ) (terms : Retry.Terms)
    (attempt : Retry.Context → Act τ (Except Fault α)) : Act τ (Option (Except Fault α)) :=
  Retry.Job.run
    { clock := handler.outside.clock
      policy := handler.configuration.retryPolicy
      entity := handler.container
      terms
      judge := handler.judge
      attempt }

def openRetrying (handler : Handler τ) : Act τ (Option (Except Fault Unit)) :=
  handler.retried {} fun _ => handler.openLink

/-- The name under which the link is associated with requests, if a link is open. -/
def linkName (handler : Handler τ) (state : State τ) : Option String :=
  state.link.bind handler.outside.linkName

end BusLink.Handler
