import BusLink.Proofs.Handler.Moves

set_option autoImplicit false

namespace BusLink.Handler

/-- What the owner of a session may put on record about its lock. -/
inductive Memo where
  | lost
  | heldUntil (second : Int)
  | renewalFailed (fault : Fault)

def Memo.apply : Memo → Session → Session
  | .lost => Session.loseLock
  | .heldUntil second => (·.lockUntil second)
  | .renewalFailed fault => (·.failRenewal fault)

theorem Memo.id_apply (memo : Memo) (session : Session) : (memo.apply session).id = session.id := by
  cases memo <;> rfl

theorem Memo.lockLost_apply (memo : Memo) (session : Session) (lost : session.lockLost = true) :
    (memo.apply session).lockLost = true := by
  cases memo with
  | lost => rfl
  | heldUntil second => exact lost
  | renewalFailed fault => exact lost

/-- A program over the operations of a handler. -/
inductive Program (τ : Type) : Type → Type 1 where
  | done {α : Type} (value : α) : Program τ α
  | andThen {α β : Type} (first : Program τ β) (next : β → Program τ α) : Program τ α
  -- Something that has nothing to do with the handler; it may take time.
  | apart {α : Type} (activity : Activity Empty τ α) : Program τ α
  | look : Program τ (State τ)
  | record (memo : Memo) : Program τ Unit
  | ensureUsable : Program τ (Except Fault Unit)
  | openLink : Program τ (Except Fault Unit)
  | dropLink : Program τ Unit
  | shutDown : Program τ Unit
  | judge (fault : Fault) : Program τ (Except Fault Fault)
  | exchange {α : Type} (errand : Errand τ α) (keepAlive : Bool) (timeout : Option Nat) :
      Program τ (Except Fault α)
  | retried {α : Type} (terms : Retry.Terms)
      (attempt : Retry.Context → Program τ (Except Fault α)) :
      Program τ (Option (Except Fault α))

namespace Program

variable {τ α : Type}

def run (handler : Handler τ) : {α : Type} → Program τ α → Act τ α
  | _, .done value => return value
  | _, .andThen first next => do (next (← first.run handler)).run handler
  | _, .apart activity => ask activity
  | _, .look => Activity.current
  | _, .record memo =>
    Activity.update fun state => { state with session := state.session.map memo.apply }
  | _, .ensureUsable => handler.ensureUsable
  | _, .openLink => handler.openLink
  | _, .dropLink => handler.dropLink
  | _, .shutDown => handler.shutDown
  | _, .judge fault => handler.judge fault
  | _, .exchange errand keepAlive timeout => handler.exchange errand keepAlive timeout
  | _, .retried terms attempt => handler.retried terms fun context => (attempt context).run handler

def openRetrying : Program τ (Option (Except Fault Unit)) :=
  .retried {} fun _ => .openLink

def exchangeRetrying (errand : Errand τ α) (timeout : Option Nat) :
    Program τ (Option (Except Fault α)) :=
  .retried (.bounded (timeout.filter (· ≠ 0))) fun context =>
    .exchange errand true context.remaining

theorem run_openRetrying (handler : Handler τ) :
    openRetrying.run handler = handler.openRetrying := rfl

theorem run_exchangeRetrying (handler : Handler τ) (errand : Errand τ α) (timeout : Option Nat) :
    (exchangeRetrying errand timeout).run handler = handler.exchangeRetrying errand timeout := rfl

theorem follows_run (handler : Handler τ) (program : Program τ α) :
    (program.run handler).Follows handler.Move := by
  induction program with
  | done value => exact Activity.follows_pure value
  | andThen first next ihFirst ihNext => exact Activity.follows_bind ihFirst ihNext
  | apart activity => exact (handler.follows_ask activity).mono Move.link
  | look => exact Activity.follows_current
  | record memo =>
    exact Activity.follows_update fun state => .recorded state _ memo.id_apply memo.lockLost_apply
  | ensureUsable => exact handler.follows_ensureUsable.mono Move.link
  | openLink => exact handler.follows_openLink.mono Move.link
  | dropLink => exact handler.follows_dropLink.mono Move.link
  | shutDown => exact handler.follows_shutDown.mono Move.link
  | judge fault => exact handler.follows_judge fault
  | exchange errand keepAlive timeout =>
    exact (handler.follows_exchange errand keepAlive timeout).mono Move.link
  | retried terms attempt ih => exact handler.follows_retried terms _ ih

end Program

variable {τ α : Type} {handler : Handler τ} {state : State τ}

/-- The states that a handler comes to by programs. -/
inductive Reachable (handler : Handler τ) : State τ → Prop where
  | initial (session : Option Session) (world : τ) : Reachable handler (initial session world)
  | after {state : State τ} {α : Type} (reachable : Reachable handler state)
      (program : Program τ α) (now : Nat) : Reachable handler (program.run handler now state).state

/-- What holds at the start and is kept by every move holds of every reachable state. -/
theorem Reachable.keeps {kept : State τ → Prop} (reachable : handler.Reachable state)
    (start : ∀ session world, kept (Handler.initial session world))
    (keep : ∀ {first notes second}, handler.Move first notes second → kept first → kept second) :
    kept state := by
  induction reachable with
  | initial session world => exact start session world
  | after _ program now ih => exact (program.follows_run handler now _).keeps kept keep ih

/-- A retried operation with all that governs its attempts. -/
def job (handler : Handler τ) (terms : Retry.Terms)
    (attempt : Retry.Context → Program τ (Except Fault α)) : Retry.Job (State τ) α where
  clock := handler.outside.clock
  policy := handler.configuration.retryPolicy
  entity := handler.container
  terms := terms
  judge := handler.judge
  attempt := fun context => (attempt context).run handler

theorem run_retried (terms : Retry.Terms) (attempt : Retry.Context → Program τ (Except Fault α)) :
    (Program.retried terms attempt).run handler = (handler.job terms attempt).run := rfl

/-- The end of a timeout that starts now can be told. An empty timeout sets no end. -/
def InReach (handler : Handler τ) (timeout : Option Nat) (now : Nat) : Prop :=
  ∀ limit, timeout = some limit → 0 < limit → now + limit ≤ handler.outside.clock.latest

theorem starts_bounded_iff {timeout : Option Nat} {now : Nat}
    {attempt : Retry.Context → Program τ (Except Fault α)} :
    (handler.job (.bounded (timeout.filter (· ≠ 0))) attempt).starts now = true ↔
      handler.InReach timeout now := by
  rw [Retry.Job.starts_iff, InReach]
  show (∀ limit, (Retry.Terms.bounded _).deadline? now = some limit →
    limit ≤ handler.outside.clock.latest) ↔ _
  cases timeout with
  | none => simp [Retry.Terms.deadline?, Retry.Terms.bounded]
  | some limit =>
    by_cases empty : limit = 0
    · simp [Retry.Terms.deadline?, Retry.Terms.bounded, empty]
    · simp [Retry.Terms.deadline?, Retry.Terms.bounded, Option.filter, empty, Nat.pos_of_ne_zero]

/-- A retried exchange whose end cannot be told breaks off before its first attempt. -/
theorem exchangeRetrying_of_beyond {timeout : Option Nat} {now : Nat}
    (beyond : ¬ handler.InReach timeout now) (errand : Errand τ α) (state : State τ) :
    handler.exchangeRetrying errand timeout now state = ⟨none, 0, [], state⟩ := by
  rw [← Program.run_exchangeRetrying, Program.exchangeRetrying, run_retried]
  exact (Retry.Job.unstarted_of_not_starts (beyond ∘ starts_bounded_iff.mp) state).run

section Rounds

variable {terms : Retry.Terms} {attempt : Retry.Context → Program τ (Except Fault α)}
variable {stage : Retry.Stage (State τ)}

theorem Reachable.tried (reachable : handler.Reachable stage.state) :
    handler.Reachable ((handler.job terms attempt).tried stage).state :=
  reachable.after (attempt ((handler.job terms attempt).told stage)) stage.instant

theorem Reachable.judgement (reachable : handler.Reachable stage.state) (raised : Fault) :
    handler.Reachable ((handler.job terms attempt).judgement stage raised).state := by
  have tried : handler.Reachable ((handler.job terms attempt).tried stage).state := reachable.tried
  exact tried.after (.judge raised) _

theorem Reachable.next (reachable : handler.Reachable stage.state) :
    handler.Reachable ((handler.job terms attempt).next stage).state := by
  simp only [Retry.Job.next]
  split
  · exact reachable.tried
  · exact reachable.judgement _

/-- The states in which the attempts of a retried operation start are reachable too. -/
theorem Reachable.stageAt (reachable : handler.Reachable state) (start index : Nat) :
    handler.Reachable ((handler.job terms attempt).stageAt start state index).state := by
  induction index with
  | zero => exact reachable
  | succ index ih => exact ih.next

section Keeps

variable {kept : State τ → Prop}
variable (keep : ∀ {first notes second}, handler.Move first notes second → kept first → kept second)

include keep

theorem keeps_tried (found : kept stage.state) :
    kept ((handler.job terms attempt).tried stage).state :=
  ((attempt ((handler.job terms attempt).told stage)).follows_run handler stage.instant
    stage.state).keeps kept keep found

theorem keeps_next (found : kept stage.state) :
    kept ((handler.job terms attempt).next stage).state := by
  have tried : kept ((handler.job terms attempt).tried stage).state := keeps_tried keep found
  simp only [Retry.Job.next]
  split
  · exact tried
  · exact (handler.follows_judge _ _ _).keeps kept keep tried

theorem keeps_stageAt (found : kept state) (start index : Nat) :
    kept ((handler.job terms attempt).stageAt start state index).state := by
  induction index with
  | zero => exact found
  | succ index ih => exact keeps_next keep ih

end Keeps

end Rounds

end BusLink.Handler
