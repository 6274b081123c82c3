import BusLink.Proofs.Handler.Program
import BusLink.Rehearsal

set_option autoImplicit false

namespace BusLink.Handler

variable {τ α : Type} {handler : Handler τ} {state : State τ}

/-- The flags agree with the link. -/
structure State.Consistent (state : State τ) : Prop where
  running : state.running = state.link.isSome
  vacant : state.shutdown = true → state.link = none

theorem consistent_initial (session : Option Session) (world : τ) :
    (initial session world).Consistent := ⟨rfl, fun _ => rfl⟩

theorem State.Consistent.link_eq_none (consistent : state.Consistent)
    (vacant : ¬ (state.running = true ∧ state.link.isSome = true)) : state.link = none := by
  rw [consistent.running, and_self, Bool.not_eq_true, Option.isSome_eq_false_iff] at vacant
  exact Option.isNone_iff_eq_none.mp vacant

theorem LinkMove.consistent {first second : State τ} {notes : List Note}
    (move : handler.LinkMove first notes second) (before : first.Consistent) :
    second.Consistent := by
  cases move with
  | aside note aside => exact before
  | outside world => exact ⟨before.running, before.vacant⟩
  | granted name usable vacant =>
    refine ⟨rfl, fun shutdown => ?_⟩
    have usable : (first.hold name).shutdown = false := usable
    rw [usable] at shutdown
    cases shutdown
  | sent link request call held => exact before
  | dropped link fault world held => exact ⟨rfl, fun _ => rfl⟩
  | stopped vacant => exact ⟨rfl, fun _ => rfl⟩
  | shut vacant => exact ⟨before.running, fun _ => vacant⟩

theorem Move.consistent {first second : State τ} {notes : List Note}
    (move : handler.Move first notes second) (before : first.Consistent) : second.Consistent := by
  cases move with
  | link move => exact move.consistent before
  | recorded change same lost => exact ⟨before.running, before.vacant⟩
  | condemned session fault bound running ends => exact ⟨before.running, before.vacant⟩

theorem Reachable.consistent (reachable : handler.Reachable state) : state.Consistent :=
  reachable.keeps consistent_initial Move.consistent

/-- No move takes a shutdown back. -/
theorem Move.shutdown {first second : State τ} {notes : List Note}
    (move : handler.Move first notes second) (shutdown : first.shutdown = true) :
    second.shutdown = true := by
  cases move with
  | recorded change same lost => exact shutdown
  | condemned session fault bound running ends => exact shutdown
  | link move =>
    cases move with
    | granted name usable vacant =>
      rw [usable] at shutdown
      cases shutdown
    | shut vacant => rfl
    | aside note aside => exact shutdown
    | outside world => exact shutdown
    | sent link request call held => exact shutdown
    | dropped link fault world held => exact shutdown
    | stopped vacant => exact shutdown

theorem open_of_ok {now : Nat} (opened : (handler.openLink now state).value = .ok ()) :
    (handler.openLink now state).state.shutdown = false ∧
      (handler.openLink now state).state.running = true ∧
      ∃ link, (handler.openLink now state).state.link = some link := by
  cases handler.opening now state with
  | shut shutdown course => cases (congrArg Course.value course).symm.trans opened
  | refused fault usable vacant course => cases (congrArg Course.value course).symm.trans opened
  | already usable held course =>
    rw [course]
    exact ⟨usable, held.1, Option.isSome_iff_exists.mp held.2⟩
  | granted name usable vacant course =>
    rw [course]
    exact ⟨usable, rfl, _, rfl⟩

/-- To open a link again does nothing. -/
theorem openLink_again {now : Nat} (opened : (handler.openLink now state).value = .ok ())
    (later : Nat) :
    handler.openLink later (handler.openLink now state).state =
      ⟨.ok (), 0, [], (handler.openLink now state).state⟩ := by
  obtain ⟨usable, running, link, held⟩ := open_of_ok opened
  exact openLink_of_open later usable running (by rw [held]; rfl)

theorem vacate_of_vacant (vacant : state.link = none) (stopped : state.running = false) :
    state.vacate = state := by
  simp only [State.vacate, ← vacant, ← stopped]

theorem not_fatal_of_stopped (stopped : state.running = false) (raised : Fault) :
    ¬ handler.Fatal state raised := by
  rintro ⟨_, running, _⟩
  cases stopped.symm.trans running

/-- Without a link to tear down the judgement of a fault costs nothing. -/
theorem judge_of_vacant (vacant : state.link = none) (stopped : state.running = false) (now : Nat)
    (raised : Fault) :
    handler.judge raised now state =
      ⟨if (handler.classified raised).retryable then .ok (handler.classified raised)
        else .error (handler.classified raised), 0, [], state⟩ := by
  rw [judge_of_not_fatal now (not_fatal_of_stopped stopped raised)]
  cases teardown : (handler.classified raised).shutsDown with
  | true =>
    rw [settle_of_shutsDown now teardown, dropLink_of_none now vacant,
      vacate_of_vacant vacant stopped]
  | false => rw [settle_of_not_shutsDown now teardown]

theorem dropLink_again (handler : Handler τ) (state : State τ) (now later : Nat) :
    handler.dropLink later (handler.dropLink now state).state =
      ⟨(), 0, [], (handler.dropLink now state).state⟩ := by
  rw [dropLink_of_none later (handler.link_dropLink now state),
    vacate_of_vacant (handler.link_dropLink now state) (handler.running_dropLink now state)]

theorem shutDown_again (handler : Handler τ) (state : State τ) (now later : Nat) :
    handler.shutDown later (handler.shutDown now state).state =
      ⟨(), 0, [], (handler.shutDown now state).state⟩ := by
  have vacant : (handler.shutDown now state).state.link = none := handler.link_dropLink now state
  have stopped : (handler.shutDown now state).state.running = false :=
    handler.running_dropLink now state
  have shutdown : (handler.shutDown now state).state.shutdown = true := rfl
  rw [shutDown_apply later, dropLink_of_none later vacant, vacate_of_vacant vacant stopped]
  simp only [← shutdown]

/-- What an exchange can come to. None of it is an exchange without a link. -/
inductive Exchanged (handler : Handler τ) (errand : Errand τ α) (keepAlive : Bool)
    (timeout : Option Nat) (now : Nat) (state : State τ) : Prop where
  | unusable (fault : Fault) (blocked : (handler.ensureUsable now state).value = .error fault)
      (course : handler.exchange errand keepAlive timeout now state = ⟨.error fault, 0, [], state⟩)
  | notOpened (fault : Fault) (usable : (handler.ensureUsable now state).value = .ok ())
      (refused : (handler.openLink now state).value = .error fault)
      (course : handler.exchange errand keepAlive timeout now state =
        { handler.openLink now state with value := .error fault })
  | overLink (link : Link) (usable : (handler.ensureUsable now state).value = .ok ())
      (opened : (handler.openLink now state).value = .ok ())
      (held : (handler.openLink now state).state.link = some link)
      (course : handler.exchange errand keepAlive timeout now state =
        (handler.send errand keepAlive timeout link (now + (handler.openLink now state).took)
          (handler.openLink now state).state).after (handler.openLink now state))

/-- What keeps a handler from being used is all that an exchange comes to. -/
theorem exchange_of_blocked {now : Nat} {fault : Fault}
    (blocked : (handler.ensureUsable now state).value = .error fault) (errand : Errand τ α)
    (keepAlive : Bool) (timeout : Option Nat) :
    handler.exchange errand keepAlive timeout now state = ⟨.error fault, 0, [], state⟩ := by
  simp [exchange, ensureUsable_of_value blocked, Course.after]

theorem exchange_cases (handler : Handler τ) (errand : Errand τ α) (keepAlive : Bool)
    (timeout : Option Nat) (now : Nat) (state : State τ) :
    handler.Exchanged errand keepAlive timeout now state := by
  cases usable : (handler.ensureUsable now state).value with
  | error fault =>
    exact .unusable fault usable (exchange_of_blocked usable errand keepAlive timeout)
  | ok _ =>
    have checked := ensureUsable_of_value usable
    cases opened : (handler.openLink now state).value with
    | error fault =>
      refine .notOpened fault usable opened ?_
      simp [exchange, checked, opened, Course.after]
    | ok _ =>
      obtain ⟨_, _, link, held⟩ := open_of_ok opened
      refine .overLink link usable opened held ?_
      simp [exchange, checked, opened, held, Course.after]

/-- How a handler stands between two operations. -/
structure Orderly (handler : Handler τ) (state : State τ) : Prop where
  running : state.running = true ↔ ∃ link, state.link = some link
  vacant : state.shutdown = true → state.link = none
  -- Shut down once, it is shut down after every program.
  final : ∀ {α : Type} (program : Program τ α) (now : Nat), state.shutdown = true →
    (program.run handler now state).state.shutdown = true
  -- So it is between the attempts of a retried operation.
  between : ∀ {α : Type} (terms : Retry.Terms)
    (attempt : Retry.Context → Program τ (Except Fault α)) (start index : Nat),
    ((handler.job terms attempt).stageAt start state index).state.Consistent
  exchanged : ∀ {α : Type} (errand : Errand τ α) (keepAlive : Bool) (timeout : Option Nat)
    (now : Nat), handler.Exchanged errand keepAlive timeout now state
  reopened : ∀ now later, (handler.openLink now state).value = .ok () →
    handler.openLink later (handler.openLink now state).state =
      ⟨.ok (), 0, [], (handler.openLink now state).state⟩
  redropped : ∀ now later, handler.dropLink later (handler.dropLink now state).state =
    ⟨(), 0, [], (handler.dropLink now state).state⟩
  reclosed : ∀ now later, handler.shutDown later (handler.shutDown now state).state =
    ⟨(), 0, [], (handler.shutDown now state).state⟩

/-- Whatever programs ran and whatever the outside answered, the handler runs exactly while it holds
a link, holds none once it is shut down, and stays shut down. -/
theorem orderly_of_reachable (reachable : handler.Reachable state) : handler.Orderly state where
  running := by
    rw [reachable.consistent.running]
    exact Option.isSome_iff_exists
  vacant := reachable.consistent.vacant
  final := fun program now shutdown =>
    (program.follows_run handler now state).keeps (·.shutdown = true) Move.shutdown shutdown
  between := fun _ _ start index => (reachable.stageAt start index).consistent
  exchanged := fun errand keepAlive timeout now =>
    handler.exchange_cases errand keepAlive timeout now state
  reopened := fun _ later opened => openLink_again opened later
  redropped := fun now later => handler.dropLink_again state now later
  reclosed := fun now later => handler.shutDown_again state now later

/-- A handler for a queue over a scripted outside. -/
def onStage : Handler Rehearsal where
  host := "space.example"
  entityName := "orders"
  entityPath := "orders"
  container := "servicebus.rs-00000000"
  credential := .external
  configuration :=
    { hostname := "space.example", transport := .amqp, retries := 3, retryMode := .fixed
      waitUnit := .zero, longestWait := .zero, encoding := "utf-8", userAgent := none
      customEndpoint := none }
  properties := .make "linux" none
  outside := Rehearsal.collaborators 0

/-- The handler opens a link, closes for good and is asked to open a link again. -/
def openAndClose : Program Rehearsal (Except Fault Unit) :=
  .andThen .openLink fun _ => .andThen .shutDown fun _ => .openLink

theorem orderly_openAndClose :
    onStage.Reachable (openAndClose.run onStage 0 (initial none {})).state ∧
      (openAndClose.run onStage 0 (initial none {})).value = .error .shutDown ∧
      onStage.Orderly (openAndClose.run onStage 0 (initial none {})).state := by
  have reachable : onStage.Reachable (openAndClose.run onStage 0 (initial none {})).state :=
    .after (.initial none _) openAndClose 0
  exact ⟨reachable, rfl, orderly_of_reachable reachable⟩

end BusLink.Handler
