import BusLink.Handler.Lifecycle

set_option autoImplicit false

namespace BusLink.Handler

variable {τ α : Type}

def entityManagement : String := "entity-mgmt"

def associatedLink : String := "associated-link-name"

/-- A message with its operation, and what is made of the answer. -/
structure Errand (τ α : Type) where
  operation : String
  message : Message
  -- Reads the answer; it may use the outside, but takes no time.
  receive : Response → StateM τ (Except Fault α)

def associated (handler : Handler τ) (keepAlive : Bool) (link : Link) : Json.Members :=
  match keepAlive, handler.outside.linkName link with
  | true, some name => [(associatedLink, .text name)]
  | _, _ => []

/-- Sends a request over a link; a timer that goes off first is a raw timeout. -/
def deliver (handler : Handler τ) (link : Link) (request : Request) (call : Call) :
    Act τ (Except Fault Response) :=
  match call.timeout with
  | none => ask (handler.outside.request link request call)
  | some limit => do
    let sending := handler.outside.request link request call
    match ← ask (sending.within handler.outside.clock limit) with
    | some result => return result
    | none => return .error .elapsed

/-- The fault of a failed request as the caller sees it: a timeout of the transport names the
operation. -/
def named (handler : Handler τ) (operation : String) (fault : Fault) : Fault :=
  if handler.outside.isTimeout fault then
    .operationTimeout ("Management operation '" ++ operation ++ "' timed out.") (some fault)
  else fault

def receive (errand : Errand τ α) (response : Response) : Act τ (Except Fault α) :=
  fun _ state =>
    let (result, outside) := (errand.receive response).run state.outside
    ⟨result, 0, [], { state with outside }⟩

def send (handler : Handler τ) (errand : Errand τ α) (keepAlive : Bool) (timeout : Option Nat)
    (link : Link) : Act τ (Except Fault α) := do
  let request := handler.outside.address errand.message (handler.associated keepAlive link)
    handler.configuration handler.managementTarget
  match handler.configuration.encode handler.managementTarget with
  | .error fault => return .error fault
  | .ok node =>
    let call : Call := ⟨errand.operation, entityManagement, node, timeout⟩
    report (.managementRequest handler.container errand.operation handler.managementTarget)
    Activity.note (.sent link request call)
    match ← handler.deliver link request call with
    | .error fault => return .error (handler.named errand.operation fault)
    | .ok response =>
      Activity.note (.answered response)
      receive errand response

/-- Runs one errand. -/
def exchange (handler : Handler τ) (errand : Errand τ α) (keepAlive : Bool)
    (timeout : Option Nat) : Act τ (Except Fault α) := do
  match ← handler.ensureUsable with
  | .error fault => return .error fault
  | .ok () =>
    match ← handler.openLink with
    | .error fault => return .error fault
    | .ok () =>
      let state ← Activity.current
      match state.link with
      | none => return .error (.connection "The handler link is not open." none)
      | some link => handler.send errand keepAlive timeout link

/-- Runs an errand under the retry policy. A timeout bounds all attempts together, an empty one
does not; every attempt gets what is left of it. -/
def exchangeRetrying (handler : Handler τ) (errand : Errand τ α) (timeout : Option Nat) :
    Act τ (Option (Except Fault α)) :=
  handler.retried (.bounded (timeout.filter (· ≠ 0))) fun context =>
    handler.exchange errand true context.remaining

end BusLink.Handler
