import BusLink.Proofs.Chain
import BusLink.Proofs.Handler.Courses

set_option autoImplicit false

namespace BusLink.Handler

open Activity

variable {τ α : Type}

/-- A move that leaves the session alone. -/
inductive LinkMove (handler : Handler τ) : State τ → List Note → State τ → Prop where
  | aside (state : State τ) (note : Note) (aside : note.isAside = true) :
      LinkMove handler state [note] state
  | outside (state : State τ) (world : τ) :
      LinkMove handler state [] { state with outside := world }
  | granted (state : State τ) (name : Option String) (usable : state.shutdown = false)
      (vacant : ¬ (state.running = true ∧ state.link.isSome = true)) :
      LinkMove handler state
        [.linkGranted ⟨state.opened, name⟩,
          .event (.linkOpened handler.container handler.entityPath)]
        (state.hold name)
  | sent (state : State τ) (link : Link) (request : Request) (call : Call)
      (held : state.link = some link) : LinkMove handler state [.sent link request call] state
  | dropped (state : State τ) (link : Link) (fault : Option Fault) (world : τ)
      (held : state.link = some link) :
      LinkMove handler state
        [.linkClosing link, .linkReleased link fault, .event (handler.closeEvent fault)]
        { state.vacate with outside := world }
  | stopped (state : State τ) (vacant : state.link = none) : LinkMove handler state [] state.vacate
  | shut (state : State τ) (vacant : state.link = none) :
      LinkMove handler state [] { state with shutdown := true }

/-- A move of a handler. -/
inductive Move (handler : Handler τ) : State τ → List Note → State τ → Prop where
  | link {state next : State τ} {notes : List Note} (move : LinkMove handler state notes next) :
      Move handler state notes next
  -- The session is recorded to be something else, but the same session, and no lost lock is found
  -- again.
  | recorded (state : State τ) (change : Session → Session)
      (same : ∀ session, (change session).id = session.id)
      (lost : ∀ session, session.lockLost = true → (change session).lockLost = true) :
      Move handler state [] { state with session := state.session.map change }
  | condemned (state : State τ) (session : Session) (fault : Fault)
      (bound : state.session = some session) (running : state.running = true)
      (ends : fault.endsSession = true) :
      Move handler state [.event (.sessionLockLost handler.container session.id fault)]
        state.loseLock

variable (handler : Handler τ)

theorem follows_ask (activity : Activity Empty τ α) : (ask activity).Follows handler.LinkMove :=
  fun _ state => .one (.outside state _)

theorem follows_ensureUsable : handler.ensureUsable.Follows handler.LinkMove := by
  intro now state
  rw [ensureUsable_apply]
  exact .still state

theorem follows_openLink : handler.openLink.Follows handler.LinkMove := by
  intro now state
  -- The outside may change even if it refuses, so its step comes before its answer.
  let asked := handler.outside.createLink (handler.linkRequest state.session) now state.outside
  have request : Chain handler.LinkMove state
      [.linkRequested (handler.linkRequest state.session)] { state with outside := asked.state } :=
    Chain.move (LinkMove.aside state _ rfl) (.one (LinkMove.outside state asked.state))
  cases handler.opening now state with
  | shut shutdown course | already usable held course =>
    rw [course]
    exact .still state
  | refused fault usable vacant course =>
    rw [course]
    exact request.trans (.one (.aside _ (.linkRefused fault) rfl))
  | granted name usable vacant course =>
    rw [course]
    exact request.trans (.one (.granted _ name usable vacant))

theorem follows_dropLink : handler.dropLink.Follows handler.LinkMove := by
  intro now state
  cases held : state.link with
  | none =>
    rw [dropLink_of_none now held]
    exact .one (.stopped state held)
  | some link =>
    rw [dropLink_of_some now held]
    exact .one (.dropped state link _ _ held)

/-- However it was before, there is no link after it was dropped. -/
theorem link_dropLink (now : Nat) (state : State τ) :
    (handler.dropLink now state).state.link = none := by
  cases held : state.link with
  | none => rw [dropLink_of_none now held]; rfl
  | some link => rw [dropLink_of_some now held]; rfl

theorem running_dropLink (now : Nat) (state : State τ) :
    (handler.dropLink now state).state.running = false := by
  cases held : state.link with
  | none => rw [dropLink_of_none now held]; rfl
  | some link => rw [dropLink_of_some now held]; rfl

theorem follows_shutDown : handler.shutDown.Follows handler.LinkMove := by
  intro now state
  rw [shutDown_apply]
  let dropped := (handler.dropLink now state).state
  have shut : Chain handler.LinkMove dropped [] { dropped with shutdown := true } :=
    .one (.shut dropped (handler.link_dropLink now state))
  simpa only [List.append_nil] using (handler.follows_dropLink now state).trans shut

theorem follows_settle (fault : Fault) : (handler.settle fault).Follows handler.LinkMove := by
  intro now state
  cases teardown : fault.shutsDown with
  | true =>
    rw [settle_of_shutsDown now teardown]
    exact handler.follows_dropLink now state
  | false =>
    rw [settle_of_not_shutsDown now teardown]
    exact .still state

theorem follows_judge (raised : Fault) : (handler.judge raised).Follows handler.Move := by
  intro now state
  by_cases fatal : handler.Fatal state raised
  · obtain ⟨bound, running, ends⟩ := fatal
    obtain ⟨session, bound⟩ := Option.isSome_iff_exists.mp bound
    rw [judge_of_fatal now bound running ends]
    -- The loss is reported before the link is touched.
    exact Chain.move (Move.condemned state session _ bound running ends)
      ((handler.follows_dropLink now state.loseLock).mono Move.link)
  · rw [judge_of_not_fatal now fatal]
    exact (handler.follows_settle _ now state).mono Move.link

theorem follows_deliver (link : Link) (request : Request) (call : Call) :
    (handler.deliver link request call).Follows handler.LinkMove := by
  unfold deliver
  split
  · exact handler.follows_ask _
  · refine follows_bind (handler.follows_ask _) fun result => ?_
    cases result with
    | some result => exact follows_pure result
    | none => exact follows_pure _

theorem follows_receive (errand : Errand τ α) (response : Response) :
    (receive errand response).Follows handler.LinkMove :=
  fun _ state => .one (.outside state _)

/-- What becomes of a request that went out. -/
def conclude (errand : Errand τ α) (link : Link) (request : Request) (call : Call) :
    Act τ (Except Fault α) := do
  match ← handler.deliver link request call with
  | .error fault => return .error (handler.named errand.operation fault)
  | .ok response =>
    Activity.note (.answered response)
    receive errand response

/-- What an errand sends over a link. -/
def outgoing (errand : Errand τ α) (keepAlive : Bool) (link : Link) : Request :=
  handler.outside.address errand.message (handler.associated keepAlive link)
    handler.configuration handler.managementTarget

theorem send_of_encoded (errand : Errand τ α) (keepAlive : Bool) (timeout : Option Nat)
    (link : Link) {node : List UInt8}
    (encoded : handler.configuration.encode handler.managementTarget = .ok node) :
    let request := handler.outgoing errand keepAlive link
    let call : Call := ⟨errand.operation, entityManagement, node, timeout⟩
    handler.send errand keepAlive timeout link = (do
      report (.managementRequest handler.container errand.operation handler.managementTarget)
      Activity.note (.sent link request call)
      handler.conclude errand link request call) := by
  simp only [send, encoded]
  rfl

theorem send_of_not_encoded (errand : Errand τ α) (keepAlive : Bool) (timeout : Option Nat)
    (link : Link) {fault : Fault} (now : Nat) (state : State τ)
    (rejected : handler.configuration.encode handler.managementTarget = .error fault) :
    handler.send errand keepAlive timeout link now state = ⟨.error fault, 0, [], state⟩ := by
  simp [send, rejected]

theorem follows_conclude (errand : Errand τ α) (link : Link) (request : Request) (call : Call) :
    (handler.conclude errand link request call).Follows handler.LinkMove := by
  refine follows_bind (handler.follows_deliver link request call) fun result => ?_
  cases result with
  | error fault => exact follows_pure _
  | ok response =>
    exact follows_bind (follows_note fun state => .aside state _ rfl) fun _ =>
      handler.follows_receive errand response

theorem chain_send (errand : Errand τ α) (keepAlive : Bool) (timeout : Option Nat) (link : Link)
    (now : Nat) (state : State τ) (held : state.link = some link) :
    Chain handler.LinkMove state
      (contents (handler.send errand keepAlive timeout link now state).notes)
      (handler.send errand keepAlive timeout link now state).state := by
  cases encoded : handler.configuration.encode handler.managementTarget with
  | error fault =>
    rw [handler.send_of_not_encoded errand keepAlive timeout link now state encoded]
    exact .still state
  | ok node =>
    rw [handler.send_of_encoded errand keepAlive timeout link encoded]
    have concluded := handler.follows_conclude errand link (handler.outgoing errand keepAlive link)
      ⟨errand.operation, entityManagement, node, timeout⟩ now state
    exact Chain.move (LinkMove.aside state _ rfl)
      (Chain.move (LinkMove.sent state link _ _ held) concluded)

theorem follows_exchange (errand : Errand τ α) (keepAlive : Bool) (timeout : Option Nat) :
    (handler.exchange errand keepAlive timeout).Follows handler.LinkMove := by
  refine follows_bind handler.follows_ensureUsable fun usable => ?_
  cases usable with
  | error fault => exact follows_pure _
  | ok _ =>
    refine follows_bind handler.follows_openLink fun opened => ?_
    cases opened with
    | error fault => exact follows_pure _
    | ok _ =>
      intro now state
      dsimp only
      rw [bind_apply, current_apply, after_at_once]
      cases held : state.link with
      | none => exact .still state
      | some link => exact handler.chain_send errand keepAlive timeout link _ state held

theorem follows_retried (terms : Retry.Terms) (attempt : Retry.Context → Act τ (Except Fault α))
    (attempts : ∀ context, (attempt context).Follows handler.Move) :
    (handler.retried terms attempt).Follows handler.Move :=
  Retry.Job.follows_run _
    (fun state note round => .link (.aside state note (Note.isAside_of_isRound round))) attempts
    handler.follows_judge

end BusLink.Handler
