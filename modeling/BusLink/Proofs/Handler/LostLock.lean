import BusLink.Proofs.Handler.Reopening
import BusLink.Proofs.Handler.SessionLoss

set_option autoImplicit false

namespace BusLink.Handler

variable {τ α β : Type} {handler : Handler τ} {state : State τ}

theorem lockLost?_eq_some_true_iff :
    state.lockLost? = some true ↔
      ∃ session, state.session = some session ∧ session.lockLost = true :=
  Option.map_eq_some_iff

/-- No move finds a lost lock again. -/
theorem Move.lockLost {first second : State τ} {notes : List Note}
    (move : handler.Move first notes second) (lost : first.lockLost? = some true) :
    second.lockLost? = some true := by
  obtain ⟨session, bound, lost⟩ := lockLost?_eq_some_true_iff.mp lost
  apply lockLost?_eq_some_true_iff.mpr
  cases move with
  | link move => exact ⟨session, move.session.1.trans bound, lost⟩
  | recorded change same kept =>
    refine ⟨change session, ?_, kept session lost⟩
    simp only [bound, Option.map_some]
  | condemned other fault found running ends =>
    refine ⟨session.loseLock, ?_, rfl⟩
    simp only [State.loseLock, bound, Option.map_some]

theorem lockLost?_record (now : Nat) (bound : state.session.isSome = true) :
    ((Program.record .lost).run handler now state).state.lockLost? = some true := by
  obtain ⟨session, bound⟩ := Option.isSome_iff_exists.mp bound
  have recorded : ((Program.record .lost).run handler now state).state.session =
      state.session.map Session.loseLock := rfl
  rw [State.lockLost?, recorded, bound]
  rfl

theorem lockLost?_judge {raised : Fault} (now : Nat) (fatal : handler.Fatal state raised) :
    (handler.judge raised now state).state.lockLost? = some true := by
  obtain ⟨bound, running, ends⟩ := fatal
  obtain ⟨session, bound⟩ := Option.isSome_iff_exists.mp bound
  have kept := (lockLost?_of_chain (handler.follows_dropLink now state.loseLock)).1
  rw [judge_of_fatal now bound running ends, kept, State.lockLost?, State.loseLock, bound]
  rfl

/-- From a kind of state to the same kind, without a note of a kind. -/
def Muted (kept : State τ → Prop) (part : Note → Option β) (first : State τ) (notes : List Note)
    (second : State τ) : Prop :=
  kept first → kept second ∧ ∀ note ∈ notes, part note = none

theorem Muted.silent {kept : State τ → Prop} {part : Note → Option β} {notes : List Note}
    {second : State τ} (chain : Chain (Muted kept part) state notes second) (start : kept state) :
    kept second ∧ notes.filterMap part = [] := by
  obtain ⟨still, quiet⟩ := chain.keepsQuiet id start
  exact ⟨still, List.filterMap_eq_nil_iff.mpr quiet⟩

/-- The moves of a handler keep a kind of state, and only attempts leave notes of a kind. -/
structure Hushed (handler : Handler τ) (kept : State τ → Prop) (part : Note → Option β) : Prop
    extends Note.OfAttempts part where
  moves : ∀ {first notes second}, handler.Move first notes second → kept first → kept second

namespace Hushed

variable {kept : State τ → Prop} {part : Note → Option β} (hushed : handler.Hushed kept part)

include hushed

theorem follows {activity : Act τ α} (moves : activity.Follows handler.Move)
    (quiet : ∀ now state, kept state →
      ∀ note ∈ contents (activity now state).notes, part note = none) :
    activity.Follows (Muted kept part) := by
  intro now state
  refine .one fun start => ⟨?_, quiet now state start⟩
  exact (moves now state).keeps kept hushed.moves start

theorem follows_dropLink : handler.dropLink.Follows (Muted kept part) := by
  apply hushed.follows (handler.follows_dropLink.mono Move.link)
  intro now state _ note member
  exact hushed.partings note (partings_dropLink now state note member)

theorem follows_judge (raised : Fault) : (handler.judge raised).Follows (Muted kept part) := by
  apply hushed.follows (handler.follows_judge raised)
  intro now state _ note member
  exact hushed.partings note (partings_judge raised now state note member)

theorem muted_of_isRound (state : State τ) (note : Note) (round : note.isRound = true) :
    Muted kept part state [note] state :=
  fun start => ⟨start, by simpa using hushed.rounds note round⟩

theorem follows_rounds (terms : Retry.Terms)
    (attempt : Retry.Context → Program τ (Except Fault α))
    (attempts : ∀ context, ((attempt context).run handler).Follows (Muted kept part))
    (deadline : Option Nat) (left : Nat) (retried : UInt32) (last : Option Fault) :
    ((handler.job terms attempt).rounds deadline left retried last).Follows (Muted kept part) := by
  apply Retry.Job.follows_rounds
  · exact hushed.muted_of_isRound
  · exact attempts
  · exact hushed.follows_judge

theorem follows_retried (terms : Retry.Terms)
    (attempt : Retry.Context → Program τ (Except Fault α))
    (attempts : ∀ context, ((attempt context).run handler).Follows (Muted kept part)) :
    (handler.job terms attempt).run.Follows (Muted kept part) := by
  apply Retry.Job.follows_run
  · exact hushed.muted_of_isRound
  · exact attempts
  · exact hushed.follows_judge

end Hushed

/-- A program that does not itself open a link. Its exchanges may. -/
def Program.Abstains : {α : Type} → Program τ α → Prop
  | _, .andThen first next => first.Abstains ∧ ∀ value, (next value).Abstains
  | _, .openLink => False
  | _, .retried _ attempt => ∀ context, (attempt context).Abstains
  | _, .done _ | _, .apart _ | _, .look | _, .record _ | _, .ensureUsable => True
  | _, .dropLink | _, .shutDown | _, .judge _ | _, .exchange .. => True

/-- What keeps a handler from being used after its lock was lost: that, or a shutdown. -/
def forfeit (state : State τ) : Fault :=
  if state.shutdown then .shutDown else .lockLost (state.session.bind Session.renewFault)

section Operations

variable (lost : state.lockLost? = some true) (now : Nat)

include lost

theorem obstacle?_of_lost (second : Int) : obstacle? state second = some (forfeit state) := by
  obtain ⟨session, bound, lost⟩ := lockLost?_eq_some_true_iff.mp lost
  by_cases shutdown : state.shutdown
  · simp only [obstacle?, forfeit, shutdown, if_true]
  · simp [obstacle?, forfeit, shutdown, bound, Session.isHeld, lost]

theorem ensureUsable_of_lost :
    handler.ensureUsable now state = ⟨.error (forfeit state), 0, [], state⟩ := by
  simp only [ensureUsable_apply, obstacle?_of_lost lost]

theorem exchange_of_lost (errand : Errand τ α) (keepAlive : Bool) (timeout : Option Nat) :
    handler.exchange errand keepAlive timeout now state =
      ⟨.error (forfeit state), 0, [], state⟩ := by
  apply exchange_of_blocked
  rw [ensureUsable_of_lost lost]

end Operations

/-- After the lock was lost, a program leaves nothing of a kind that only attempts leave, unless it
opens links and that leaves something of this kind. -/
theorem Hushed.follows_run {part : Note → Option β}
    (hushed : handler.Hushed (·.lockLost? = some true) part) (program : Program τ α)
    (greetings : program.Abstains ∨ ∀ note, note.isGreeting = true → part note = none) :
    (program.run handler).Follows (Muted (·.lockLost? = some true) part) := by
  induction program with
  | done value => exact Activity.follows_pure value
  | look => exact Activity.follows_current
  | andThen first next ihFirst ihNext =>
    refine Activity.follows_bind (ihFirst (greetings.imp_left And.left)) fun value => ?_
    exact ihNext value (greetings.imp_left fun both => both.2 value)
  | apart activity =>
    apply hushed.follows ((handler.follows_ask activity).mono Move.link)
    simp
  | record memo =>
    apply hushed.follows ((Program.record memo).follows_run handler)
    simp [Program.run]
  | ensureUsable =>
    apply hushed.follows (handler.follows_ensureUsable.mono Move.link)
    intro now state _
    simp [ensureUsable_apply]
  | openLink =>
    have quiet := greetings.resolve_left id
    apply hushed.follows (handler.follows_openLink.mono Move.link)
    intro now state _ note member
    exact quiet note (handler.greetings_openLink now state note member)
  | dropLink => exact hushed.follows_dropLink
  | shutDown =>
    apply hushed.follows (handler.follows_shutDown.mono Move.link)
    intro now state _ note member
    have dropped : note ∈ contents (handler.dropLink now state).notes := by
      simpa only [Program.run, shutDown_apply] using member
    exact hushed.partings note (partings_dropLink now state note dropped)
  | judge fault => exact hushed.follows_judge fault
  | exchange errand keepAlive timeout =>
    apply hushed.follows ((handler.follows_exchange errand keepAlive timeout).mono Move.link)
    intro now state lost
    simp [exchange_of_lost lost]
  | retried terms attempt ih =>
    apply hushed.follows_retried
    intro context
    exact ih context (greetings.imp_left fun abstains => abstains context)

theorem hushed_of_lost {part : Note → Option β} (ofAttempts : Note.OfAttempts part) :
    handler.Hushed (·.lockLost? = some true) part :=
  { ofAttempts with moves := Move.lockLost }

section Programs

variable (lost : state.lockLost? = some true) (now : Nat)

include lost

/-- No program makes a request go out after the lock was lost, or finds the lock again. -/
theorem unsent_of_lost (program : Program τ α) :
    (program.run handler now state).state.lockLost? = some true ∧
      sendings (contents (program.run handler now state).notes) = [] := by
  have hushed : handler.Hushed (·.lockLost? = some true) Note.sentOver? :=
    hushed_of_lost Note.ofAttempts_sentOver?
  exact Muted.silent (hushed.follows_run program (.inr sentOver?_of_isGreeting) now state) lost

/-- A program that opens no link itself does not make a link be asked for either. -/
theorem unasked_of_lost (program : Program τ α) (abstains : program.Abstains) :
    linkRequests (contents (program.run handler now state).notes) = [] := by
  have hushed : handler.Hushed (·.lockLost? = some true) Note.requested? :=
    hushed_of_lost Note.ofAttempts_requested?
  exact (Muted.silent (hushed.follows_run program (.inl abstains) now state) lost).2

theorem rounds_of_lost (terms : Retry.Terms)
    (attempt : Retry.Context → Program τ (Except Fault α)) (deadline : Option Nat) (left : Nat)
    (retried : UInt32) (last : Option Fault) :
    let course := (handler.job terms attempt).rounds deadline left retried last now state
    course.state.lockLost? = some true ∧ sendings (contents course.notes) = [] ∧
      ((∀ context, (attempt context).Abstains) → linkRequests (contents course.notes) = []) := by
  intro course
  have unsent : handler.Hushed (·.lockLost? = some true) Note.sentOver? :=
    hushed_of_lost Note.ofAttempts_sentOver?
  have attempts (context : Retry.Context) := unsent.follows_run (attempt context)
    (.inr sentOver?_of_isGreeting)
  have quiet := unsent.follows_rounds terms attempt attempts deadline left retried last now state
  obtain ⟨kept, silent⟩ := Muted.silent quiet lost
  refine ⟨kept, silent, ?_⟩
  intro abstain
  have unasked : handler.Hushed (·.lockLost? = some true) Note.requested? :=
    hushed_of_lost Note.ofAttempts_requested?
  have attempts (context : Retry.Context) := unasked.follows_run (attempt context)
    (.inl (abstain context))
  have quiet := unasked.follows_rounds terms attempt attempts deadline left retried last now state
  exact (Muted.silent quiet lost).2

/-- A retried exchange finds out in its first attempt that the handler cannot be used. -/
theorem exchangeRetrying_of_lost (plain : handler.outside.classify = Fault.classify)
    (errand : Errand τ α) {timeout : Option Nat} (inReach : handler.InReach timeout now) :
    (handler.exchangeRetrying errand timeout now state).value = some (.error (forfeit state)) ∧
      ∃ context : Retry.Context, context.attempt = 0 ∧
        contents (handler.exchangeRetrying errand timeout now state).notes =
          .attempt context :: .judged (forfeit state) ::
            contents (handler.judge (forfeit state) now state).notes := by
  have blocked : (handler.ensureUsable now state).value = .error (forfeit state) := by
    rw [ensureUsable_of_lost lost]
  have same := (classify_of_blocked blocked handler.configuration.customEndpoint).1
  have kept : handler.classified (forfeit state) = forfeit state :=
    (classified_of_plain plain _).trans same
  obtain ⟨context, first, course⟩ := exchangeRetrying_of_blocked blocked kept errand inReach
  rw [course]
  exact ⟨rfl, context, first, rfl⟩

end Programs

theorem linkRequests_openRetrying_eq_nil_iff (handler : Handler τ) (now : Nat) (state : State τ) :
    linkRequests (contents (handler.openRetrying now state).notes) = [] ↔
      state.shutdown = true ∨ state.running = true ∧ state.link.isSome = true := by
  let job := handler.job {} fun _ => Program.openLink
  have run : handler.openRetrying = job.run := rfl
  have starts : job.starts now = true := rfl
  have tried (stage : Retry.Stage (State τ)) :
      job.tried stage = handler.openLink stage.instant stage.state := rfl
  have requested : job.AttemptsOnly Note.requested? :=
    attemptsOnly_job Note.ofAttempts_requested? _ _
  rw [run]
  constructor
  · intro silent
    obtain ⟨last, account⟩ := Retry.Job.account_of_starts starts state
    rw [linkRequests, requested.run account, List.flatMap_eq_nil_iff] at silent
    have first := silent 0 (List.mem_range.mpr (Nat.succ_pos last))
    have asked := handler.linkRequests_openLink now state
    by_contra wanted
    rw [if_neg wanted] at asked
    cases asked.symm.trans first
  · intro spared
    by_cases shutdown : state.shutdown = true
    · have hushed : handler.Hushed (·.shutdown = true) Note.requested? :=
        { Note.ofAttempts_requested? with moves := Move.shutdown }
      have opening (_ : Retry.Context) :
          (Program.openLink.run handler).Follows (Muted (·.shutdown = true) Note.requested?) := by
        apply hushed.follows (handler.follows_openLink.mono Move.link)
        intro later found shut
        simp [openLink_of_shutdown later shut]
      exact (Muted.silent (hushed.follows_retried {} _ opening now state) shutdown).2
    · have held := spared.resolve_left shutdown
      have usable : state.shutdown = false := by simpa using shutdown
      have opened (context : Retry.Context) :
          job.attempt context now state = ⟨.ok (), 0, [], state⟩ :=
        openLink_of_open now usable held.1 held.2
      obtain ⟨context, _, course⟩ := Retry.Job.run_of_accepted starts opened
      rw [course]
      rfl

/-- All that is left of a session handler whose lock was marked lost, and what is not. -/
structure Forfeited (handler : Handler τ) (state : State τ) : Prop where
  unusable : ∀ now, handler.ensureUsable now state = ⟨.error (forfeit state), 0, [], state⟩
  unanswered : ∀ {α : Type} (errand : Errand τ α) (keepAlive : Bool) (timeout : Option Nat)
    (now : Nat), handler.exchange errand keepAlive timeout now state =
      ⟨.error (forfeit state), 0, [], state⟩
  -- A retried exchange makes one attempt, and leaves nothing besides but what it gives up.
  unansweredRetrying : handler.outside.classify = Fault.classify →
    ∀ {α : Type} (errand : Errand τ α) (timeout : Option Nat) (now : Nat),
    handler.InReach timeout now →
    (handler.exchangeRetrying errand timeout now state).value = some (.error (forfeit state)) ∧
      ∃ context : Retry.Context, context.attempt = 0 ∧
        contents (handler.exchangeRetrying errand timeout now state).notes =
          .attempt context :: .judged (forfeit state) ::
            contents (handler.judge (forfeit state) now state).notes
  -- With a timeout whose end cannot be told it breaks off before that attempt.
  unstarted : ∀ {α : Type} (errand : Errand τ α) (timeout : Option Nat) (now : Nat),
    ¬ handler.InReach timeout now →
      handler.exchangeRetrying errand timeout now state = ⟨none, 0, [], state⟩
  -- Whatever is done with the handler, the lock stays lost, the handler cannot be used, and nothing
  -- is sent. No link is asked for unless somebody opens one.
  later : ∀ {α : Type} (program : Program τ α) (now : Nat),
    let course := program.run handler now state
    course.state.lockLost? = some true ∧
      (∀ second, obstacle? course.state second = some (forfeit course.state)) ∧
      sendings (contents course.notes) = [] ∧
      (program.Abstains → linkRequests (contents course.notes) = [])
  -- So it is for the rounds that are left of an operation in which the lock was lost.
  resumed : ∀ {α : Type} (terms : Retry.Terms)
    (attempt : Retry.Context → Program τ (Except Fault α)) (deadline : Option Nat) (left : Nat)
    (retried : UInt32) (last : Option Fault) (now : Nat),
    let course := (handler.job terms attempt).rounds deadline left retried last now state
    course.state.lockLost? = some true ∧ sendings (contents course.notes) = [] ∧
      ((∀ context, (attempt context).Abstains) → linkRequests (contents course.notes) = [])
  -- Opening a link does not look at the lock.
  opened : ∀ now, linkRequests (contents (handler.openLink now state).notes) =
    if state.shutdown = true ∨ state.running = true ∧ state.link.isSome = true then []
    else [handler.linkRequest state.session]
  openedRetrying : ∀ now, linkRequests (contents (handler.openRetrying now state).notes) = [] ↔
    state.shutdown = true ∨ state.running = true ∧ state.link.isSome = true

/-- A lock is lost once it is recorded to be, or by a fatal fault. From then on it stays lost, and
the handler exchanges nothing any more. -/
theorem lock_lost_for_good (handler : Handler τ) (state : State τ) :
    (∀ now, state.session.isSome = true →
      ((Program.record .lost).run handler now state).state.lockLost? = some true) ∧
    (∀ raised now, handler.Fatal state raised →
      (handler.judge raised now state).state.lockLost? = some true) ∧
    (state.lockLost? = some true → handler.Forfeited state) := by
  refine ⟨lockLost?_record, fun _ => lockLost?_judge, fun lost => ?_⟩
  constructor
  · exact ensureUsable_of_lost lost
  · exact fun errand keepAlive timeout now => exchange_of_lost lost now errand keepAlive timeout
  · exact fun plain _ errand _ now inReach =>
      exchangeRetrying_of_lost lost now plain errand inReach
  · exact fun errand _ now beyond => exchangeRetrying_of_beyond beyond errand state
  · intro _ program now course
    obtain ⟨kept, silent⟩ := unsent_of_lost lost now program
    refine ⟨kept, obstacle?_of_lost kept, silent, ?_⟩
    exact unasked_of_lost lost now program
  · exact fun terms attempt deadline left retried last now =>
      rounds_of_lost lost now terms attempt deadline left retried last
  · exact fun now => handler.linkRequests_openLink now state
  · exact fun now => handler.linkRequests_openRetrying_eq_nil_iff now state

/-- A session handler loses its lock while its link is open. -/
def lostOpen : State Rehearsal := ((Program.record .lost).run onStage 0 boundOpen).state

theorem lock_lost_lostOpen :
    boundOpen.session.isSome = true ∧ lostOpen.link = some ⟨0, none⟩ ∧
      lostOpen.lockLost? = some true ∧ onStage.Forfeited lostOpen := by
  have lost : lostOpen.lockLost? = some true :=
    (lock_lost_for_good onStage boundOpen).1 0 rfl
  exact ⟨rfl, rfl, lost, (lock_lost_for_good onStage lostOpen).2.2 lost⟩

/-- A session handler learns that its lock is lost before it opens a link. -/
def lostEarly : State Rehearsal :=
  ((Program.record .lost).run onStage 0 (initial (some { id := "s" }) {})).state

/-- It asks for a link all the same, and gets one. -/
theorem asked_lostEarly :
    onStage.Reachable lostEarly ∧ lostEarly.lockLost? = some true ∧
      (onStage.ensureUsable 0 lostEarly).value = .error (.lockLost none) ∧
      (onStage.openLink 0 lostEarly).value = .ok () ∧
      linkRequests (contents (onStage.openLink 0 lostEarly).notes) =
        [onStage.linkRequest lostEarly.session] :=
  ⟨.after (.initial _ _) (.record .lost) 0, rfl, rfl, rfl, rfl⟩

end BusLink.Handler
