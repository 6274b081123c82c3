import BusLink.Proofs.Handler.SessionLoss
import BusLink.Proofs.Retry.InStep

set_option autoImplicit false

namespace BusLink

open Activity

variable {first second : Option String}

/-- The outside does the same under either endpoint. What a fault means may be reworded, as the
standard meaning of faults is (`Fault.classify_reworded`). -/
structure Collaborators.Heedless {τ : Type} (outside : Collaborators τ)
    (first second : Option String) : Prop where
  createLink : ∀ request : LinkRequest,
    outside.createLink (request.rerouted second) = outside.createLink (request.rerouted first)
  address : ∀ message added (configuration : Configuration) replyTo,
    outside.address message added (configuration.rerouted second) replyTo =
      outside.address message added (configuration.rerouted first) replyTo
  classify : ∀ fault,
    (outside.classify first fault).Reworded first second (outside.classify second fault)

namespace Handler

variable {τ α : Type} {handler : Handler τ}

def rerouted (handler : Handler τ) (endpoint : Option String) : Handler τ :=
  { handler with configuration := handler.configuration.rerouted endpoint }

/-- Two programs that do the same. Where they go by what they have learned, they do so in the same
way for all that is the same but for its wording; attempts come to the same whichever of two
reworded faults they are told. -/
inductive Program.InStep (first second : Option String) :
    {α : Type} → (α → α → Prop) → Program τ α → Program τ α → Prop where
  | done {α : Type} {values : α → α → Prop} {value other : α} (matching : values value other) :
      InStep first second values (.done value) (.done other)
  | andThen {α β : Type} {values : β → β → Prop} {results : α → α → Prop}
      {start begin : Program τ β} {next rest : β → Program τ α}
      (together : InStep first second values start begin)
      (onward : ∀ value other, values value other →
        InStep first second results (next value) (rest other)) :
      InStep first second results (.andThen start next) (.andThen begin rest)
  | apart {α : Type} (activity : Activity Empty τ α) :
      InStep first second Eq (.apart activity) (.apart activity)
  | look : InStep first second Eq .look .look
  | record (memo : Memo) : InStep first second Eq (.record memo) (.record memo)
  | ensureUsable : InStep first second Eq .ensureUsable .ensureUsable
  | openLink : InStep first second Eq .openLink .openLink
  | dropLink : InStep first second Eq .dropLink .dropLink
  | shutDown : InStep first second Eq .shutDown .shutDown
  | judge (fault : Fault) :
      InStep first second (Answer.Reworded first second (Fault.Reworded first second))
        (.judge fault) (.judge fault)
  | exchange {α : Type} (errand : Errand τ α) (keepAlive : Bool) (timeout : Option Nat) :
      InStep first second Eq (.exchange errand keepAlive timeout)
        (.exchange errand keepAlive timeout)
  | retried {α : Type} (terms : Retry.Terms)
      {attempt other : Retry.Context → Program τ (Except Fault α)}
      (attempts : ∀ told context, told.Reworded first second context →
        InStep first second Eq (attempt told) (other context)) :
      InStep first second (Option.Rel (Answer.Reworded first second Eq))
        (.retried terms attempt) (.retried terms other)

theorem Program.inStep_openRetrying :
    Program.InStep first second (Option.Rel (Answer.Reworded first second Eq))
      (openRetrying : Program τ _) openRetrying :=
  .retried {} fun _ _ _ => .openLink

theorem Program.inStep_exchangeRetrying (errand : Errand τ α) (timeout : Option Nat) :
    Program.InStep first second (Option.Rel (Answer.Reworded first second Eq))
      (exchangeRetrying errand timeout) (exchangeRetrying errand timeout) := by
  refine .retried _ fun told context worded => ?_
  rw [worded.remaining]
  exact .exchange errand true told.remaining

theorem inStep_settle (handler : Handler τ) {fault other : Fault}
    (worded : fault.Reworded first second other) :
    Activity.InStep first second (Answer.Reworded first second (Fault.Reworded first second))
      ((handler.rerouted first).settle fault) ((handler.rerouted second).settle other) := by
  have answer : Answer.Reworded first second (Fault.Reworded first second)
      (if fault.retryable then .ok fault else .error fault)
      (if other.retryable then .ok other else .error other) := by
    rw [worded.retryable]
    split
    · exact .ok worded
    · exact .error worded
  intro now state
  -- To drop a link has nothing to do with the endpoint.
  cases teardown : fault.shutsDown with
  | true =>
    rw [settle_of_shutsDown now teardown,
      settle_of_shutsDown now (worded.shutsDown.trans teardown)]
    exact ⟨answer, rfl, abreast_self _, rfl⟩
  | false =>
    rw [settle_of_not_shutsDown now teardown,
      settle_of_not_shutsDown now (worded.shutsDown.trans teardown)]
    exact ⟨answer, rfl, .nil, rfl⟩

section Heedless

variable (heedless : handler.outside.Heedless first second)

include heedless

theorem inStep_judge (raised : Fault) :
    Activity.InStep first second (Answer.Reworded first second (Fault.Reworded first second))
      ((handler.rerouted first).judge raised) ((handler.rerouted second).judge raised) := by
  have worded : ((handler.rerouted first).classified raised).Reworded first second
      ((handler.rerouted second).classified raised) := heedless.classify raised
  intro now state
  by_cases fatal : (handler.rerouted first).Fatal state raised
  · obtain ⟨bound, running, ends⟩ := fatal
    obtain ⟨session, bound⟩ := Option.isSome_iff_exists.mp bound
    rw [judge_of_fatal now bound running ends,
      judge_of_fatal now bound running (worded.endsSession.trans ends)]
    exact ⟨.error worded, rfl,
      .cons ⟨rfl, .event (.sessionLockLost handler.container session.id worded)⟩ (abreast_self _),
      rfl⟩
  · have harmless : ¬ (handler.rerouted second).Fatal state raised := fun lost =>
      fatal ⟨lost.1, lost.2.1, worded.endsSession.symm.trans lost.2.2⟩
    rw [judge_of_not_fatal now fatal, judge_of_not_fatal now harmless]
    exact handler.inStep_settle worded now state

theorem inStep_openLink :
    Activity.InStep first second Eq (handler.rerouted first).openLink
      (handler.rerouted second).openLink := by
  refine inStep_bind_same (inStep_self _) fun state => ?_
  split
  · exact inStep_self _
  · split
    · exact inStep_self _
    · refine inStep_bind_same
        (inStep_note (.linkRequested (handler.linkRequest state.session))) fun _ => ?_
      have asked : (handler.rerouted second).outside.createLink
          ((handler.rerouted second).linkRequest state.session) =
          (handler.rerouted first).outside.createLink
            ((handler.rerouted first).linkRequest state.session) :=
        heedless.createLink (handler.linkRequest state.session)
      rw [asked]
      exact inStep_self _

theorem send_rerouted (errand : Errand τ α) (keepAlive : Bool) (timeout : Option Nat)
    (link : Link) :
    (handler.rerouted second).send errand keepAlive timeout link =
      (handler.rerouted first).send errand keepAlive timeout link := by
  have addressed : (handler.rerouted second).outside.address errand.message
      ((handler.rerouted second).associated keepAlive link) (handler.rerouted second).configuration
      (handler.rerouted second).managementTarget =
    (handler.rerouted first).outside.address errand.message
      ((handler.rerouted first).associated keepAlive link) (handler.rerouted first).configuration
      (handler.rerouted first).managementTarget := heedless.address _ _ handler.configuration _
  unfold send
  rw [addressed]
  rfl

theorem inStep_exchange (errand : Errand τ α) (keepAlive : Bool) (timeout : Option Nat) :
    Activity.InStep first second Eq ((handler.rerouted first).exchange errand keepAlive timeout)
      ((handler.rerouted second).exchange errand keepAlive timeout) := by
  refine inStep_bind_same (inStep_self handler.ensureUsable) fun usable => ?_
  cases usable with
  | error fault => exact inStep_self _
  | ok _ =>
    refine inStep_bind_same (inStep_openLink heedless) fun opened => ?_
    cases opened with
    | error fault => exact inStep_self _
    | ok _ =>
      refine inStep_bind_same (inStep_self _) fun state => ?_
      cases state.link with
      | none => exact inStep_self _
      | some link =>
        dsimp only
        rw [send_rerouted heedless]
        exact inStep_self _

/-- The answers of two programs in step are in step, with all that they do on the way. -/
theorem run_inStep {values : α → α → Prop} {program other : Program τ α}
    (together : program.InStep first second values other) :
    Activity.InStep first second values (program.run (handler.rerouted first))
      (other.run (handler.rerouted second)) := by
  induction together with
  | done matching => exact inStep_pure matching
  | andThen together onward ihStart ihOnward => exact inStep_bind ihStart ihOnward
  | apart activity => exact inStep_self _
  | look => exact inStep_self _
  | record memo => exact inStep_self _
  | ensureUsable => exact inStep_self _
  | openLink => exact inStep_openLink heedless
  | dropLink => exact inStep_self _
  | shutDown => exact inStep_self _
  | judge fault => exact inStep_judge heedless fault
  | exchange errand keepAlive timeout => exact inStep_exchange heedless errand keepAlive timeout
  | retried terms attempts ih =>
    exact Retry.Job.InStep.run ⟨rfl, rfl, rfl, rfl, inStep_judge heedless, ih⟩

/-- Retried operations whose attempts are in step are in step. -/
theorem job_inStep (terms : Retry.Terms) {attempt other : Retry.Context → Program τ (Except Fault α)}
    (attempts : ∀ told context, told.Reworded first second context →
      (attempt told).InStep first second Eq (other context)) :
    ((handler.rerouted first).job terms attempt).InStep first second
      ((handler.rerouted second).job terms other) :=
  ⟨rfl, rfl, rfl, rfl, inStep_judge heedless, fun told context worded =>
    run_inStep heedless (attempts told context worded)⟩

end Heedless

/-- What a handler does under two endpoints. -/
structure Unmoved (handler : Handler τ) (first second : Option String) : Prop where
  -- From the same state on the runs take the same time and come to the same state; their answers
  -- match, and all that happens on the way is the same but for the wording of lost connections.
  run : ∀ {α : Type} {values : α → α → Prop} {program other : Program τ α},
    program.InStep first second values other → ∀ now state,
    (program.run (handler.rerouted first) now state).InStep first second values
      (other.run (handler.rerouted second) now state)
  -- So it is between the attempts of a retried operation: each of them starts at the same instant
  -- in the same state, after the same fault but for its wording.
  between : ∀ {α : Type} (terms : Retry.Terms)
    {attempt other : Retry.Context → Program τ (Except Fault α)},
    (∀ told context, told.Reworded first second context →
      (attempt told).InStep first second Eq (other context)) →
    ∀ start state index,
    (((handler.rerouted first).job terms attempt).stageAt start state index).InStep first second
      (((handler.rerouted second).job terms other).stageAt start state index)
  opened : ∀ now state,
    ((handler.rerouted first).openRetrying now state).InStep first second
      (Option.Rel (Answer.Reworded first second Eq))
      ((handler.rerouted second).openRetrying now state)
  exchanged : ∀ {α : Type} (errand : Errand τ α) timeout now state,
    ((handler.rerouted first).exchangeRetrying errand timeout now state).InStep first second
      (Option.Rel (Answer.Reworded first second Eq))
      ((handler.rerouted second).exchangeRetrying errand timeout now state)

/-- The endpoint of a handler has its part in the wording of lost connections and in nothing else
that happens. -/
theorem unmoved_of_heedless (heedless : handler.outside.Heedless first second) :
    handler.Unmoved first second where
  run := fun together => run_inStep heedless together
  between := fun terms _ _ attempts start state index =>
    (job_inStep heedless terms attempts).stageAt start state index
  opened := run_inStep heedless Program.inStep_openRetrying
  exchanged := fun errand timeout =>
    run_inStep heedless (Program.inStep_exchangeRetrying errand timeout)

def cutLine : Retry.Context → Program Rehearsal (Except Fault Json) :=
  fun _ => .apart (Rehearsal.finish
    ⟨[], 0, .error (.raw (.ofKind .connectionClosed "socket reset"))⟩)

def brokenLine (reason : String) : Option (Except Fault Json) :=
  some (.error (.connection reason
    (some (.raw (.ofKind .connectionClosed "socket reset")))))

theorem unmoved_cutLine :
    let program : Program Rehearsal (Option (Except Fault Json)) := .retried {} cutLine
    let proxy := some "https://proxy.example"
    onStage.outside.Heedless none proxy ∧
      program.InStep none proxy (Option.Rel (Answer.Reworded none proxy Eq)) program ∧
      (program.run (onStage.rerouted none) 0 boundOpen).value = brokenLine "socket reset" ∧
      (program.run (onStage.rerouted proxy) 0 boundOpen).value =
        brokenLine "socket reset (custom endpoint address: https://proxy.example)" ∧
      (program.run (onStage.rerouted none) 0 boundOpen).InStep none proxy
        (Option.Rel (Answer.Reworded none proxy Eq))
        (program.run (onStage.rerouted proxy) 0 boundOpen) := by
  intro program proxy
  have heedless : onStage.outside.Heedless none proxy :=
    ⟨fun _ => rfl, fun _ _ _ _ => rfl, fun fault => fault.classify_reworded none proxy⟩
  have together : program.InStep none proxy (Option.Rel (Answer.Reworded none proxy Eq)) program :=
    .retried {} fun _ _ _ => .apart _
  exact ⟨heedless, together, rfl, rfl, (unmoved_of_heedless heedless).run together 0 boundOpen⟩

end Handler
end BusLink
