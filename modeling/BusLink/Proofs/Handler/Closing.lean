import BusLink.Proofs.Alike
import BusLink.Proofs.Handler.Running

set_option autoImplicit false

namespace BusLink

/-- Whether a note is of a call that goes out about a link: for one, for its end, or over it. -/
def Note.isCall : Note → Bool
  | .linkRequested _ | .linkClosing _ | .sent .. => true
  | _ => false

theorem Note.isCall_of_isRound {note : Note} (round : note.isRound = true) :
    note.isCall = false := by
  cases note <;> first | rfl | cases round

namespace Handler

variable {τ α : Type} {handler : Handler τ} {state : State τ}

/-- The state of a handler that was closed for good. -/
structure State.Closed (state : State τ) : Prop where
  shutdown : state.shutdown = true
  vacant : state.link = none
  stopped : state.running = false

theorem closed_shutDown (handler : Handler τ) (now : Nat) (state : State τ) :
    (handler.shutDown now state).state.Closed := by
  rw [shutDown_apply]
  exact ⟨rfl, handler.link_dropLink now state, handler.running_dropLink now state⟩

section Operations

variable (closed : state.Closed) (now : Nat)

include closed

theorem obstacle?_of_closed (second : Int) : obstacle? state second = some .shutDown := by
  simp only [obstacle?, closed.shutdown, if_true]

theorem ensureUsable_of_closed :
    handler.ensureUsable now state = ⟨.error .shutDown, 0, [], state⟩ := by
  simp only [ensureUsable_apply, obstacle?_of_closed closed]

theorem openLink_of_closed : handler.openLink now state = ⟨.error .shutDown, 0, [], state⟩ :=
  openLink_of_shutdown now closed.shutdown

theorem exchange_of_closed (errand : Errand τ α) (keepAlive : Bool) (timeout : Option Nat) :
    handler.exchange errand keepAlive timeout now state = ⟨.error .shutDown, 0, [], state⟩ := by
  apply exchange_of_blocked
  rw [ensureUsable_of_closed closed]

theorem dropLink_of_closed : handler.dropLink now state = ⟨(), 0, [], state⟩ := by
  rw [dropLink_of_none now closed.vacant, vacate_of_vacant closed.vacant closed.stopped]

theorem shutDown_of_closed : handler.shutDown now state = ⟨(), 0, [], state⟩ := by
  rw [shutDown_apply, dropLink_of_closed closed]
  simp only [← closed.shutdown]

/-- There is nothing left that a fault could cost. -/
theorem judge_of_closed (raised : Fault) :
    handler.judge raised now state =
      ⟨if (handler.classified raised).retryable then .ok (handler.classified raised)
        else .error (handler.classified raised), 0, [], state⟩ :=
  judge_of_vacant closed.vacant closed.stopped now raised

end Operations

/-- From a closed state to a closed one, without a call about a link. -/
def Still (first : State τ) (notes : List Note) (second : State τ) : Prop :=
  first.Closed → second.Closed ∧ ∀ note ∈ notes, note.isCall = false

theorem still_of_chain {first second : State τ} {notes : List Note}
    (chain : Chain Still first notes second) : Still first notes second :=
  chain.keepsQuiet id

theorem follows_of_idle {activity : Act τ α}
    (idle : ∀ now state, state.Closed →
      ∃ value, activity now state = ⟨value, 0, [], state⟩) : activity.Follows Still := by
  intro now state
  refine .one fun closed => ?_
  obtain ⟨value, course⟩ := idle now state closed
  rw [course]
  exact ⟨closed, by simp⟩

theorem still_of_round (state : State τ) (note : Note) (round : note.isRound = true) :
    Still state [note] state :=
  fun closed => ⟨closed, by simpa using Note.isCall_of_isRound round⟩

theorem follows_ask_still (activity : Activity Empty τ α) : (ask activity).Follows Still := by
  intro now state
  rw [ask_apply]
  exact .one fun closed => ⟨⟨closed.shutdown, closed.vacant, closed.stopped⟩, by simp⟩

theorem follows_judge_still (handler : Handler τ) (raised : Fault) :
    (handler.judge raised).Follows Still :=
  follows_of_idle fun now _ closed => ⟨_, judge_of_closed closed now raised⟩

/-- Nothing that a program does brings a handler out of a closed state or makes it call. -/
theorem follows_run_still (handler : Handler τ) (program : Program τ α) :
    (program.run handler).Follows Still := by
  induction program with
  | done value => exact Activity.follows_pure value
  | andThen first next ihFirst ihNext => exact Activity.follows_bind ihFirst ihNext
  | apart activity => exact follows_ask_still activity
  | look => exact Activity.follows_current
  | record memo =>
    refine Activity.follows_update fun state closed => ⟨?_, by simp⟩
    exact ⟨closed.shutdown, closed.vacant, closed.stopped⟩
  | ensureUsable => exact follows_of_idle fun now _ closed => ⟨_, ensureUsable_of_closed closed now⟩
  | openLink => exact follows_of_idle fun now _ closed => ⟨_, openLink_of_closed closed now⟩
  | dropLink => exact follows_of_idle fun now _ closed => ⟨_, dropLink_of_closed closed now⟩
  | shutDown => exact follows_of_idle fun now _ closed => ⟨_, shutDown_of_closed closed now⟩
  | judge fault => exact handler.follows_judge_still fault
  | exchange errand keepAlive timeout =>
    exact follows_of_idle fun now _ closed =>
      ⟨_, exchange_of_closed closed now errand keepAlive timeout⟩
  | retried terms attempt ih =>
    exact Retry.Job.follows_run _ still_of_round ih handler.follows_judge_still

/-- The handler with the links and the answers of another outside. -/
def rewired (handler : Handler τ) (other : Collaborators τ) : Handler τ :=
  { handler with
    outside := { handler.outside with
      createLink := other.createLink
      closeLink := other.closeLink
      request := other.request } }

theorem alike_of_idle {first second : Act τ α}
    (idle : ∀ now state, state.Closed → ∃ value,
      first now state = ⟨value, 0, [], state⟩ ∧ second now state = ⟨value, 0, [], state⟩) :
    Activity.Alike State.Closed first second := by
  constructor
  · intro now state closed
    obtain ⟨value, left, right⟩ := idle now state closed
    rw [left, right]
  · intro now state closed
    obtain ⟨value, _, right⟩ := idle now state closed
    rw [right]
    exact closed

theorem alike_judge_rewired (handler : Handler τ) (other : Collaborators τ) (raised : Fault) :
    Activity.Alike State.Closed ((handler.rewired other).judge raised) (handler.judge raised) :=
  alike_of_idle fun now _ closed =>
    ⟨_, judge_of_closed closed now raised, judge_of_closed closed now raised⟩

/-- In a closed state a program comes to the same whatever the outside does about links. -/
theorem alike_run_rewired (handler : Handler τ) (other : Collaborators τ)
    (program : Program τ α) :
    Activity.Alike State.Closed (program.run (handler.rewired other)) (program.run handler) := by
  induction program with
  | done value => exact Activity.alike_pure value
  | andThen first next ihFirst ihNext => exact Activity.alike_bind ihFirst ihNext
  | apart activity =>
    refine ⟨fun _ _ _ => rfl, ?_⟩
    intro now state closed
    exact ⟨closed.shutdown, closed.vacant, closed.stopped⟩
  | look => exact Activity.alike_current
  | record memo =>
    refine Activity.alike_update ?_
    intro state closed
    exact ⟨closed.shutdown, closed.vacant, closed.stopped⟩
  | ensureUsable =>
    exact alike_of_idle fun now _ closed =>
      ⟨_, ensureUsable_of_closed closed now, ensureUsable_of_closed closed now⟩
  | openLink =>
    exact alike_of_idle fun now _ closed =>
      ⟨_, openLink_of_closed closed now, openLink_of_closed closed now⟩
  | dropLink =>
    exact alike_of_idle fun now _ closed =>
      ⟨_, dropLink_of_closed closed now, dropLink_of_closed closed now⟩
  | shutDown =>
    exact alike_of_idle fun now _ closed =>
      ⟨_, shutDown_of_closed closed now, shutDown_of_closed closed now⟩
  | judge fault => exact handler.alike_judge_rewired other fault
  | exchange errand keepAlive timeout =>
    exact alike_of_idle fun now _ closed =>
      ⟨_, exchange_of_closed closed now errand keepAlive timeout,
        exchange_of_closed closed now errand keepAlive timeout⟩
  | retried terms attempt ih =>
    exact (handler.job terms attempt).alike_run ih (handler.alike_judge_rewired other)

section Rounds

variable {terms : Retry.Terms} {attempt : Retry.Context → Program τ (Except Fault α)}

theorem closed_next {stage : Retry.Stage (State τ)} (closed : stage.state.Closed) :
    ((handler.job terms attempt).next stage).state.Closed := by
  let job := handler.job terms attempt
  have tried : (job.tried stage).state.Closed :=
    (still_of_chain (handler.follows_run_still (attempt (job.told stage)) _ _) closed).1
  simp only [Retry.Job.next]
  split
  · exact tried
  · exact (still_of_chain (handler.follows_judge_still _ _ _) tried).1

/-- A retried operation whose attempts find the handler closed makes one attempt. -/
theorem retried_of_closed (closed : state.Closed) (now : Nat)
    (starts : (handler.job terms attempt).starts now = true)
    (kept : handler.classified .shutDown = .shutDown)
    (fails : ∀ context, (attempt context).run handler now state =
      ⟨.error .shutDown, 0, [], state⟩) :
    ∃ context : Retry.Context, context.attempt = 0 ∧
      (handler.job terms attempt).run now state =
        ⟨some (.error .shutDown), 0,
          [⟨now, .attempt context⟩, ⟨now, .judged .shutDown⟩], state⟩ := by
  have judged : (handler.job terms attempt).judge .shutDown now state =
      ⟨.error .shutDown, 0, [], state⟩ := by
    show handler.judge .shutDown now state = _
    rw [judge_of_closed closed now, kept]
    rfl
  have verdict := congrArg Course.value judged
  obtain ⟨context, first, course⟩ := Retry.Job.run_of_refused starts fails rfl verdict
  rw [judged] at course
  exact ⟨context, first, course⟩

end Rounds

theorem openRetrying_of_closed (closed : state.Closed) (now : Nat)
    (kept : handler.classified .shutDown = .shutDown) :
    ∃ context : Retry.Context, context.attempt = 0 ∧
      handler.openRetrying now state =
        ⟨some (.error .shutDown), 0,
          [⟨now, .attempt context⟩, ⟨now, .judged .shutDown⟩], state⟩ := by
  rw [← Program.run_openRetrying]
  exact retried_of_closed closed now rfl kept fun _ => openLink_of_closed closed now

theorem exchangeRetrying_of_closed (closed : state.Closed) (now : Nat)
    (kept : handler.classified .shutDown = .shutDown) (errand : Errand τ α) {timeout : Option Nat}
    (inReach : handler.InReach timeout now) :
    ∃ context : Retry.Context, context.attempt = 0 ∧
      handler.exchangeRetrying errand timeout now state =
        ⟨some (.error .shutDown), 0,
          [⟨now, .attempt context⟩, ⟨now, .judged .shutDown⟩], state⟩ := by
  rw [← Program.run_exchangeRetrying]
  exact retried_of_closed closed now (starts_bounded_iff.mpr inReach) kept fun context =>
    exchange_of_closed closed now errand true context.remaining

/-- What a handler answers in a closed state, at any time, and what it does not do any more. -/
structure ClosedForGood (handler : Handler τ) (state : State τ) : Prop where
  unusable : ∀ now, handler.ensureUsable now state = ⟨.error .shutDown, 0, [], state⟩
  unopened : ∀ now, handler.openLink now state = ⟨.error .shutDown, 0, [], state⟩
  unanswered : ∀ {α : Type} (errand : Errand τ α) (keepAlive : Bool) (timeout : Option Nat)
    (now : Nat), handler.exchange errand keepAlive timeout now state =
      ⟨.error .shutDown, 0, [], state⟩
  -- A retried operation makes one attempt, unless the outside gives the fault of a closed handler
  -- another meaning. It leaves nothing but that attempt, no report and no wait.
  unopenedRetrying : handler.classified .shutDown = .shutDown → ∀ now,
    ∃ context : Retry.Context, context.attempt = 0 ∧
      handler.openRetrying now state =
        ⟨some (.error .shutDown), 0,
          [⟨now, .attempt context⟩, ⟨now, .judged .shutDown⟩], state⟩
  unansweredRetrying : handler.classified .shutDown = .shutDown →
    ∀ {α : Type} (errand : Errand τ α) (timeout : Option Nat) (now : Nat),
    handler.InReach timeout now → ∃ context : Retry.Context, context.attempt = 0 ∧
      handler.exchangeRetrying errand timeout now state =
        ⟨some (.error .shutDown), 0,
          [⟨now, .attempt context⟩, ⟨now, .judged .shutDown⟩], state⟩
  -- With a timeout whose end cannot be told it breaks off before that attempt.
  unstarted : ∀ {α : Type} (errand : Errand τ α) (timeout : Option Nat) (now : Nat),
    ¬ handler.InReach timeout now →
      handler.exchangeRetrying errand timeout now state = ⟨none, 0, [], state⟩
  -- Whatever is done with the handler, it stays closed and calls for nothing.
  later : ∀ {α : Type} (program : Program τ α) (now : Nat),
    (program.run handler now state).state.Closed ∧
      ∀ note ∈ contents (program.run handler now state).notes, note.isCall = false
  -- What the outside would do about links makes no difference to anything.
  regardless : ∀ {α : Type} (other : Collaborators τ) (program : Program τ α) (now : Nat),
    program.run (handler.rewired other) now state = program.run handler now state
  -- So it is between the attempts of a retried operation.
  between : ∀ {α : Type} (terms : Retry.Terms)
    (attempt : Retry.Context → Program τ (Except Fault α)) (start index : Nat),
    ((handler.job terms attempt).stageAt start state index).state.Closed
  -- So it is for the rounds that are left of an operation in which the handler was closed.
  resumed : ∀ {α : Type} (terms : Retry.Terms)
    (attempt : Retry.Context → Program τ (Except Fault α)) (deadline : Option Nat) (left : Nat)
    (retried : UInt32) (last : Option Fault) (now : Nat),
    let course := (handler.job terms attempt).rounds deadline left retried last now state
    course.state.Closed ∧ ∀ note ∈ contents course.notes, note.isCall = false

/-- A session handler opens its link and learns that its lock is lost. -/
def openAndLose : Program Rehearsal Unit :=
  .andThen .openLink fun _ => .record .lost

end Handler
end BusLink
