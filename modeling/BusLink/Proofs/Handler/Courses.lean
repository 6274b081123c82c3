import BusLink.Handler.Exchange

set_option autoImplicit false

namespace BusLink

def faultOf? {α : Type} : Except Fault α → Option Fault
  | .ok _ => none
  | .error fault => some fault

namespace Handler

variable {τ α : Type} (handler : Handler τ)

def closeEvent : Option Fault → Event
  | none => .linkClosed handler.container
  | some fault => .linkCloseFailed handler.container fault

def State.vacate (state : State τ) : State τ := { state with link := none, running := false }

def State.loseLock (state : State τ) : State τ :=
  { state with session := state.session.map Session.loseLock }

/-- The meaning that the handler gives to a fault. -/
def classified (fault : Fault) : Fault :=
  handler.outside.classify handler.configuration.customEndpoint fault

/-- A running session handler gives up its session on a fault that ends it. -/
def Fatal (state : State τ) (raised : Fault) : Prop :=
  state.session.isSome = true ∧ state.running = true ∧
    (handler.classified raised).endsSession = true

instance (state : State τ) (raised : Fault) : Decidable (handler.Fatal state raised) :=
  inferInstanceAs (Decidable (_ ∧ _ ∧ _))

variable {handler} {state : State τ} (now : Nat)

theorem vacate_of_none (vacant : state.link = none) :
    state.vacate = { state with running := false } := by
  simp only [State.vacate, ← vacant]

@[simp] theorem ask_apply (activity : Activity Empty τ α) (state : State τ) :
    ask activity now state =
      ⟨(activity now state.outside).value, (activity now state.outside).took, [],
        { state with outside := (activity now state.outside).state }⟩ := rfl

theorem ensureUsable_apply (handler : Handler τ) (now : Nat) (state : State τ) :
    handler.ensureUsable now state =
      ⟨match obstacle? state (handler.outside.wallClock now) with
        | some fault => .error fault
        | none => .ok (), 0, [], state⟩ := by
  cases blocked : obstacle? state (handler.outside.wallClock now) <;>
    simp [ensureUsable, blocked, Course.after]

theorem ensureUsable_of_value {handler : Handler τ} {now : Nat} {state : State τ}
    {value : Except Fault Unit} (answer : (handler.ensureUsable now state).value = value) :
    handler.ensureUsable now state = ⟨value, 0, [], state⟩ := by
  rw [← answer, ensureUsable_apply]

theorem openLink_of_shutdown (shutdown : state.shutdown = true) :
    handler.openLink now state = ⟨.error .shutDown, 0, [], state⟩ := by
  simp [openLink, shutdown, Course.after]

theorem openLink_of_open (usable : state.shutdown = false) (running : state.running = true)
    (held : state.link.isSome = true) :
    handler.openLink now state = ⟨.ok (), 0, [], state⟩ := by
  simp [openLink, usable, running, held, Course.after]

theorem openLink_of_refused (usable : state.shutdown = false)
    (vacant : ¬ (state.running = true ∧ state.link.isSome = true)) {fault : Fault}
    (refused : (handler.outside.createLink (handler.linkRequest state.session) now
      state.outside).value = .error fault) :
    handler.openLink now state =
      let asked := handler.outside.createLink (handler.linkRequest state.session) now state.outside
      ⟨.error fault, asked.took,
        [⟨now, .linkRequested (handler.linkRequest state.session)⟩,
          ⟨now + asked.took, .linkRefused fault⟩],
        { state with outside := asked.state }⟩ := by
  simp [openLink, usable, vacant, refused, Course.after]

theorem openLink_of_granted (usable : state.shutdown = false)
    (vacant : ¬ (state.running = true ∧ state.link.isSome = true)) {name : Option String}
    (granted : (handler.outside.createLink (handler.linkRequest state.session) now
      state.outside).value = .ok name) :
    handler.openLink now state =
      let asked := handler.outside.createLink (handler.linkRequest state.session) now state.outside
      ⟨.ok (), asked.took,
        [⟨now, .linkRequested (handler.linkRequest state.session)⟩,
          ⟨now + asked.took, .linkGranted ⟨state.opened, name⟩⟩,
          ⟨now + asked.took, .event (.linkOpened handler.container handler.entityPath)⟩],
        { state with outside := asked.state }.hold name⟩ := by
  simp [openLink, usable, vacant, granted, Course.after]

/-- What opening a link comes to, by the way the handler stood before. -/
inductive Opening (handler : Handler τ) (now : Nat) (state : State τ) : Prop where
  | shut (shutdown : state.shutdown = true)
      (course : handler.openLink now state = ⟨.error .shutDown, 0, [], state⟩)
  | already (usable : state.shutdown = false)
      (held : state.running = true ∧ state.link.isSome = true)
      (course : handler.openLink now state = ⟨.ok (), 0, [], state⟩)
  | refused (fault : Fault) (usable : state.shutdown = false)
      (vacant : ¬ (state.running = true ∧ state.link.isSome = true))
      (course : handler.openLink now state =
        let request := handler.linkRequest state.session
        let asked := handler.outside.createLink request now state.outside
        ⟨.error fault, asked.took,
          [⟨now, .linkRequested request⟩, ⟨now + asked.took, .linkRefused fault⟩],
          { state with outside := asked.state }⟩)
  | granted (name : Option String) (usable : state.shutdown = false)
      (vacant : ¬ (state.running = true ∧ state.link.isSome = true))
      (course : handler.openLink now state =
        let request := handler.linkRequest state.session
        let asked := handler.outside.createLink request now state.outside
        ⟨.ok (), asked.took,
          [⟨now, .linkRequested request⟩, ⟨now + asked.took, .linkGranted ⟨state.opened, name⟩⟩,
            ⟨now + asked.took, .event (.linkOpened handler.container handler.entityPath)⟩],
          { state with outside := asked.state }.hold name⟩)

theorem opening (handler : Handler τ) (now : Nat) (state : State τ) :
    handler.Opening now state := by
  by_cases shutdown : state.shutdown
  · exact .shut shutdown (openLink_of_shutdown now shutdown)
  · have usable : state.shutdown = false := by simpa using shutdown
    by_cases held : state.running = true ∧ state.link.isSome = true
    · exact .already usable held (openLink_of_open now usable held.1 held.2)
    · cases answer : (handler.outside.createLink (handler.linkRequest state.session) now
          state.outside).value with
      | error fault =>
        exact .refused fault usable held (openLink_of_refused now usable held answer)
      | ok name => exact .granted name usable held (openLink_of_granted now usable held answer)

theorem dropLink_of_none (vacant : state.link = none) :
    handler.dropLink now state = ⟨(), 0, [], state.vacate⟩ := by
  simp [dropLink, vacant, vacate_of_none vacant, Course.after]

theorem dropLink_of_some {link : Link} (held : state.link = some link) :
    handler.dropLink now state =
      let closed := handler.outside.closeLink link now state.outside
      ⟨(), closed.took,
        [⟨now, .linkClosing link⟩,
          ⟨now + closed.took, .linkReleased link (faultOf? closed.value)⟩,
          ⟨now + closed.took, .event (handler.closeEvent (faultOf? closed.value))⟩],
        { state.vacate with outside := closed.state }⟩ := by
  cases outcome : (handler.outside.closeLink link now state.outside).value <;>
    simp [dropLink, held, outcome, faultOf?, closeEvent, State.vacate, Course.after]

theorem shutDown_apply (state : State τ) :
    handler.shutDown now state =
      { handler.dropLink now state with
        state := { (handler.dropLink now state).state with shutdown := true } } := by
  apply Activity.course_ext <;> simp [shutDown]

theorem loseLock_apply (state : State τ) :
    (loseLock : Act τ Unit) now state = ⟨(), 0, [], state.loseLock⟩ := rfl

theorem settle_of_shutsDown {fault : Fault} (teardown : fault.shutsDown = true) (state : State τ) :
    handler.settle fault now state =
      let dropped := handler.dropLink now state
      ⟨if fault.retryable then .ok fault else .error fault, dropped.took, dropped.notes,
        dropped.state⟩ := by
  simp [settle, teardown]

theorem settle_of_not_shutsDown {fault : Fault} (kept : fault.shutsDown = false) (state : State τ) :
    handler.settle fault now state =
      ⟨if fault.retryable then .ok fault else .error fault, 0, [], state⟩ := by
  simp [settle, kept]

/-- A fatal fault loses the session and the link and ends the call. -/
theorem judge_of_fatal {raised : Fault} {session : Session} (bound : state.session = some session)
    (running : state.running = true) (ends : (handler.classified raised).endsSession = true) :
    handler.judge raised now state =
      let dropped := handler.dropLink now state.loseLock
      ⟨.error (handler.classified raised), dropped.took,
        ⟨now, .event (.sessionLockLost handler.container session.id (handler.classified raised))⟩ ::
          dropped.notes,
        dropped.state⟩ := by
  rw [classified] at ends
  simp [judge, bound, running, ends, classified, loseLock_apply, Course.after]

/-- Every other fault is settled by its flags. -/
theorem judge_of_not_fatal {raised : Fault} (harmless : ¬ handler.Fatal state raised) :
    handler.judge raised now state = handler.settle (handler.classified raised) now state := by
  rw [Fatal, classified] at harmless
  cases bound : state.session with
  | none => simp [judge, bound, classified, Course.after]
  | some session =>
    have spared : ¬ (state.running = true ∧ (handler.outside.classify
        handler.configuration.customEndpoint raised).endsSession = true) := fun fatal =>
      harmless ⟨by rw [bound]; rfl, fatal⟩
    simp [judge, bound, spared, classified, Course.after]

end Handler
end BusLink
