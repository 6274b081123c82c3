import BusLink.Proofs.Handler.LostLock

set_option autoImplicit false

namespace BusLink.Handler

variable {τ α : Type} {handler : Handler τ} {state : State τ} {session : Session} {now : Nat}

/-- A handler with a session that is not shut down and may not rely on its lock at a second. -/
structure State.Lapsed (state : State τ) (session : Session) (second : Int) : Prop where
  bound : state.session = some session
  usable : state.shutdown = false
  lapsed : session.lockLost = true ∨ session.isExpired second = true

theorem State.Lapsed.obstacle? {second : Int} (lapsed : state.Lapsed session second) :
    obstacle? state second = some (.lockLost session.renewFault) := by
  have unheld : session.isHeld second = false := by
    rcases lapsed.lapsed with lost | expired
    · simp [Session.isHeld, lost]
    · simp [Session.isHeld, expired]
  simp [Handler.obstacle?, lapsed.usable, lapsed.bound, unheld]

theorem State.Lapsed.blocked (lapsed : state.Lapsed session (handler.outside.wallClock now)) :
    (handler.ensureUsable now state).value = .error (.lockLost session.renewFault) := by
  rw [ensureUsable_apply, lapsed.obstacle?]

section Judgements

variable {renewal : Option Fault}
variable (kept : handler.classified (.lockLost renewal) = .lockLost renewal)

include kept

theorem judge_lockLost_of_stopped (stopped : state.running = false) :
    handler.judge (.lockLost renewal) now state =
      ⟨.error (.lockLost renewal), 0, [], state⟩ := by
  rw [judge_of_not_fatal now (not_fatal_of_stopped stopped _), kept,
    settle_of_not_shutsDown now rfl]
  rfl

theorem judge_lockLost_of_running {link : Link} (bound : state.session = some session)
    (running : state.running = true) (held : state.link = some link) :
    let closed := handler.outside.closeLink link now state.outside
    handler.judge (.lockLost renewal) now state =
      ⟨.error (.lockLost renewal), closed.took,
        [⟨now, .event (.sessionLockLost handler.container session.id (.lockLost renewal))⟩,
          ⟨now, .linkClosing link⟩,
          ⟨now + closed.took, .linkReleased link (faultOf? closed.value)⟩,
          ⟨now + closed.took, .event (handler.closeEvent (faultOf? closed.value))⟩],
        { state.loseLock.vacate with outside := closed.state }⟩ := by
  have ends : (handler.classified (.lockLost renewal)).endsSession = true := by
    rw [kept]
    rfl
  have stillHeld : state.loseLock.link = some link := held
  rw [judge_of_fatal now bound running ends, dropLink_of_some now stillHeld, kept]
  rfl

end Judgements

section Exchanges

variable (lapsed : state.Lapsed session (handler.outside.wallClock now))
variable (kept : handler.classified (.lockLost session.renewFault) = .lockLost session.renewFault)
variable (errand : Errand τ α) {timeout : Option Nat}

include lapsed kept

theorem State.Lapsed.silent :
    let notes := contents (handler.exchangeRetrying errand timeout now state).notes
    linkRequests notes = [] ∧ sendings notes = [] := by
  intro notes
  by_cases inReach : handler.InReach timeout now
  · obtain ⟨context, _, course⟩ := exchangeRetrying_of_blocked lapsed.blocked kept errand inReach
    have unasked := handler.filterMap_judge Note.ofAttempts_requested?
      (.lockLost session.renewFault) now state
    have unsent := handler.filterMap_judge Note.ofAttempts_sentOver?
      (.lockLost session.renewFault) now state
    simp only [notes, course]
    exact ⟨unasked, unsent⟩
  · simp only [notes, exchangeRetrying_of_beyond inReach]
    exact ⟨rfl, rfl⟩

/-- A lock that had merely run out is given up by a retried exchange. -/
theorem State.Lapsed.lost (running : state.running = true) (inReach : handler.InReach timeout now) :
    (handler.exchangeRetrying errand timeout now state).state.lockLost? = some true := by
  have fatal : handler.Fatal state (.lockLost session.renewFault) := by
    refine ⟨by rw [lapsed.bound]; rfl, running, ?_⟩
    rw [kept]
    rfl
  obtain ⟨context, _, refusal⟩ := exchangeRetrying_of_blocked lapsed.blocked kept errand inReach
  rw [refusal]
  exact lockLost?_judge now fatal

end Exchanges

/-- What a handler does with exchanges after its lock has lapsed. The refusal names the last failure
to renew the lock. -/
structure TurnedAway (handler : Handler τ) (session : Session) (now : Nat) (state : State τ) :
    Prop where
  -- A plain exchange does nothing.
  refused : ∀ {α : Type} (errand : Errand τ α) (keepAlive : Bool) (timeout : Option Nat),
    handler.exchange errand keepAlive timeout now state =
      ⟨.error (.lockLost session.renewFault), 0, [], state⟩
  -- A retried one does no more in a handler that does not run, and makes one attempt, unless the
  -- outside gives the fault of a lost lock another meaning.
  stopped : handler.classified (.lockLost session.renewFault) = .lockLost session.renewFault →
    state.running = false → ∀ {α : Type} (errand : Errand τ α) (timeout : Option Nat),
    handler.InReach timeout now → ∃ context : Retry.Context, context.attempt = 0 ∧
      handler.exchangeRetrying errand timeout now state =
        ⟨some (.error (.lockLost session.renewFault)), 0,
          [⟨now, .attempt context⟩, ⟨now, .judged (.lockLost session.renewFault)⟩], state⟩
  -- In a handler that runs the lock is marked lost and the link closed after that one attempt,
  -- which takes the time of closing it.
  running : handler.classified (.lockLost session.renewFault) = .lockLost session.renewFault →
    state.running = true → ∀ {α : Type} (errand : Errand τ α) (timeout : Option Nat),
    handler.InReach timeout now →
    ∃ (link : Link) (context : Retry.Context), state.link = some link ∧ context.attempt = 0 ∧
      let fault : Fault := .lockLost session.renewFault
      let closed := handler.outside.closeLink link now state.outside
      handler.exchangeRetrying errand timeout now state =
        ⟨some (.error fault), closed.took,
          [⟨now, .attempt context⟩, ⟨now, .judged fault⟩,
            ⟨now, .event (.sessionLockLost handler.container session.id fault)⟩,
            ⟨now, .linkClosing link⟩,
            ⟨now + closed.took, .linkReleased link (faultOf? closed.value)⟩,
            ⟨now + closed.took, .event (handler.closeEvent (faultOf? closed.value))⟩],
          { state with
            link := none, running := false, session := some session.loseLock
            outside := closed.state }⟩
  -- With a timeout whose end cannot be told it breaks off before that attempt.
  unstarted : ∀ {α : Type} (errand : Errand τ α) (timeout : Option Nat),
    ¬ handler.InReach timeout now →
      handler.exchangeRetrying errand timeout now state = ⟨none, 0, [], state⟩
  idle : handler.classified (.lockLost session.renewFault) = .lockLost session.renewFault →
    ∀ {α : Type} (errand : Errand τ α) (timeout : Option Nat),
    let notes := contents (handler.exchangeRetrying errand timeout now state).notes
    linkRequests notes = [] ∧ sendings notes = []
  -- Whatever is done and recorded later, a lock that was given up stays lost, also if it had merely
  -- run out.
  lastingly : handler.classified (.lockLost session.renewFault) = .lockLost session.renewFault →
    state.running = true → ∀ {α β : Type} (errand : Errand τ α) (timeout : Option Nat)
      (program : Program τ β) (later : Nat), handler.InReach timeout now →
    let course := program.run handler later (handler.exchangeRetrying errand timeout now state).state
    course.state.lockLost? = some true ∧
      ∀ second, Handler.obstacle? course.state second = some (forfeit course.state)

def letsLapse : Program Rehearsal Unit :=
  .andThen .openLink fun _ =>
    .andThen (.record (.renewalFailed (.serverBusy "busy"))) fun _ => .record (.heldUntil 0)

end BusLink.Handler
