import BusLink.Handler.Exchange

set_option autoImplicit false

namespace BusLink

structure Cue (α : Type) where
  item : α
  times : Nat
deriving Repr

namespace Cue

variable {α : Type}

def take : List (Cue α) → Option α × List (Cue α)
  | [] => (none, [])
  | ⟨_, 0⟩ :: rest => take rest
  | ⟨item, 1⟩ :: rest => (some item, rest)
  | ⟨item, times + 2⟩ :: rest => (some item, ⟨item, times + 1⟩ :: rest)

end Cue

structure Reply where
  result : Except Fault Response
  delay : Option Nat

/-- A thing that an attempt does to its handler before anything else. -/
inductive Deed where
  | openLink
  | ensureUsable
  | shutDown
  | dropLink
  | loseLock
deriving DecidableEq, Repr

structure Turn where
  deeds : List Deed
  delay : Nat
  outcome : Except Fault Json

/-- The state of a scripted outside. -/
structure Rehearsal where
  linkName : Option String := none
  openDelay : Nat := 0
  answerDelay : Nat := 0
  openFaults : List (Cue Fault) := []
  closeFaults : List (Cue Fault) := []
  replies : List (Cue Reply) := []
  turns : List (Cue Turn) := []
  -- How often the receiver of an answer still fails; without a number it always does.
  refusals : Option Nat := none
  vault : Auth.Vault := Auth.Vault.blank
  tokens : List (Except Fault Auth.AccessToken) := []
  asked : List (List String) := []

namespace Rehearsal

def plainReply : Reply :=
  ⟨.ok ⟨200, none, .object [], []⟩, none⟩

/-- The longest time for which a timer is set: thirty years of 365 days. -/
def farthest : Nat := 30 * 365 * 24 * 60 * 60 * 1000000000

/-- The clock of a scripted outside. It counts seconds in signed words of sixty-four bits, and a
wait that is longer than a timer can be set for ends with that timer. -/
def clock : Clock where
  latest := Nat.pow 2 63 * 1000000000 - 1
  wake now delay := if delay = 0 then now else Clock.nextTick (now + min delay farthest)
  now_le_wake now delay := by
    have ahead := Clock.le_nextTick (now + min delay farthest)
    split <;> omega
  wake_zero _ := rfl
  wake_le now delay := by
    split
    · exact Nat.le_trans (Nat.le_add_right now delay) (Clock.le_nextTick _)
    · exact Clock.nextTick_mono (by omega)

/-- Sets up a link after the delay for it, unless a failure is queued. -/
def createLink : Activity Empty Rehearsal (Except Fault (Option String)) := do
  Activity.wait clock (← Activity.current).openDelay
  let state ← Activity.current
  let (fault, rest) := Cue.take state.openFaults
  Activity.update ({ · with openFaults := rest })
  match fault with
  | some fault => return .error fault
  | none => return .ok state.linkName

def closeLink : Activity Empty Rehearsal (Except Fault Unit) := do
  let (fault, rest) := Cue.take (← Activity.current).closeFaults
  Activity.update ({ · with closeFaults := rest })
  match fault with
  | some fault => return .error fault
  | none => return .ok ()

/-- Gives the next answer after its delay. The answer is used up when the request arrives. -/
def answer : Activity Empty Rehearsal (Except Fault Response) := do
  let state ← Activity.current
  let (reply, rest) := Cue.take state.replies
  Activity.update ({ · with replies := rest })
  let reply := reply.getD plainReply
  Activity.wait clock (reply.delay.getD state.answerDelay)
  return reply.result

def collaborators (second : Int) : Collaborators Rehearsal where
  clock := clock
  createLink _ := createLink
  closeLink _ := closeLink
  request _ _ _ := answer
  wallClock _ := second

/-- The external source of tokens; when its stock is used up it answers with a blank expiry. -/
def issueToken (scopes : List String) : StateM Rehearsal (Except Fault Auth.AccessToken) := do
  let state ← get
  set { state with tokens := state.tokens.tail, asked := scopes :: state.asked }
  return state.tokens.headD (.ok ⟨"jwt", 0⟩)

def token (credential : Auth.Credential) (second : Int) (scopes : List String) :
    StateM Rehearsal (Except Fault Auth.AccessToken) := do
  credential.token (← get).vault second scopes issueToken

def receive {α : Type} (refusal : Option Fault) (read : Response → α) (response : Response) :
    StateM Rehearsal (Except Fault α) := do
  match refusal, (← get).refusals with
  | none, _ => return .ok (read response)
  | some fault, none => return .error fault
  | some _, some 0 => return .ok (read response)
  | some fault, some (left + 1) =>
    modify ({ · with refusals := some left })
    return .error fault

/-- The next attempt of an operation; when there is none it succeeds at once. -/
def nextTurn : Activity Empty Rehearsal Turn := do
  let (turn, rest) := Cue.take (← Activity.current).turns
  Activity.update ({ · with turns := rest })
  return turn.getD ⟨[], 0, .ok .null⟩

def finish (turn : Turn) : Activity Empty Rehearsal (Except Fault Json) := do
  Activity.wait clock turn.delay
  return turn.outcome

end Rehearsal

namespace Handler

def act (handler : Handler Rehearsal) : Deed → Act Rehearsal (Except Fault Unit)
  | .openLink => handler.openLink
  | .ensureUsable => handler.ensureUsable
  | .shutDown => do
    handler.shutDown
    return .ok ()
  | .dropLink => do
    handler.dropLink
    return .ok ()
  | .loseLock => do
    loseLock
    return .ok ()

def actAll (handler : Handler Rehearsal) : List Deed → Act Rehearsal (Except Fault Unit)
  | [] => return .ok ()
  | deed :: rest => do
    match ← handler.act deed with
    | .error fault => return .error fault
    | .ok () => handler.actAll rest

def play (handler : Handler Rehearsal) : Act Rehearsal (Except Fault Json) := do
  let turn ← ask Rehearsal.nextTurn
  match ← handler.actAll turn.deeds with
  | .error fault => return .error fault
  | .ok () => ask (Rehearsal.finish turn)

def rehearse (handler : Handler Rehearsal) (terms : Retry.Terms) :
    Act Rehearsal (Option (Except Fault Json)) :=
  handler.retried terms fun _ => handler.play

end Handler

namespace Retry

/-- How a rehearsed run judges faults. -/
inductive Judgement where
  | byFlag
  | always
  | classified
deriving DecidableEq, Repr

namespace Judgement

def flagged (fault : Fault) : Except Fault Fault :=
  if fault.retryable then .ok fault else .error fault

def judge : Judgement → Fault → Except Fault Fault
  | .byFlag, fault => flagged fault
  | .always, fault => .ok fault
  | .classified, fault => flagged (fault.classify none)

end Judgement

def rehearsal (policy : Policy) (entity : String) (judgement : Judgement) (terms : Terms) :
    Job Rehearsal Json where
  clock := Rehearsal.clock
  policy := policy
  entity := entity
  terms := terms
  judge fault := return judgement.judge fault
  attempt _ := do
    let turn ← Activity.onPart id (fun inner _ => inner) Rehearsal.nextTurn
    Activity.onPart id (fun inner _ => inner) (Rehearsal.finish turn)

end Retry
end BusLink
