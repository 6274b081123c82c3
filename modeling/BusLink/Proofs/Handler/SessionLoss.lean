import BusLink.Proofs.Handler.Running

set_option autoImplicit false

namespace BusLink

def Event.isLoss : Event → Bool
  | .sessionLockLost .. => true
  | _ => false

def losses (notes : List Note) : List Event := (reports notes).filter Event.isLoss

theorem losses_append (first second : List Note) :
    losses (first ++ second) = losses first ++ losses second := by
  simp only [losses, reports_append, List.filter_append]

theorem losses_flatMap (notes : Nat → List (Stamped Note)) (indices : List Nat) :
    losses (contents (indices.flatMap notes)) =
      indices.flatMap fun index => losses (contents (notes index)) := by
  induction indices with
  | nil => rfl
  | cons index indices ih =>
    rw [List.flatMap_cons, contents_append, losses_append, ih, List.flatMap_cons]

theorem losses_of_aside {note : Note} (aside : note.isAside = true) : losses [note] = [] := by
  cases note with
  | event event => cases event <;> first | rfl | cases aside
  | _ => rfl

namespace Handler

variable {τ α : Type} {handler : Handler τ} {state : State τ}

def State.lockLost? (state : State τ) : Option Bool := state.session.map Session.lockLost

theorem LinkMove.session {first second : State τ} {notes : List Note}
    (move : handler.LinkMove first notes second) :
    second.session = first.session ∧ losses notes = [] := by
  cases move with
  | aside note aside => exact ⟨rfl, losses_of_aside aside⟩
  | dropped link fault world held => cases fault <;> exact ⟨rfl, rfl⟩
  | _ => exact ⟨rfl, rfl⟩

theorem session_of_chain {first second : State τ} {notes : List Note}
    (chain : Chain handler.LinkMove first notes second) :
    second.session = first.session ∧ losses notes = [] := by
  induction chain with
  | still state => exact ⟨rfl, rfl⟩
  | move move _ ih =>
    obtain ⟨kept, silent⟩ := move.session
    rw [losses_append, silent, ih.1, kept, ih.2]
    exact ⟨rfl, rfl⟩

theorem Move.entity {first second : State τ} {notes : List Note}
    (move : handler.Move first notes second) (entity : first.session = none) :
    second.session = none ∧ losses notes = [] := by
  cases move with
  | link move =>
    obtain ⟨kept, silent⟩ := move.session
    exact ⟨kept.trans entity, silent⟩
  | recorded change same lost => exact ⟨by simp only [entity, Option.map_none], rfl⟩
  | condemned session fault bound running ends =>
    rw [entity] at bound
    cases bound

/-- A handler without a session never reports the loss of one. -/
theorem entity_of_chain {first second : State τ} {notes : List Note}
    (chain : Chain handler.Move first notes second) (entity : first.session = none) :
    second.session = none ∧ losses notes = [] := by
  induction chain with
  | still state => exact ⟨entity, rfl⟩
  | move move _ ih =>
    obtain ⟨kept, silent⟩ := move.entity entity
    obtain ⟨without, rest⟩ := ih kept
    rw [losses_append, silent, rest]
    exact ⟨without, rfl⟩

/-- A fault that is not fatal leaves the session alone. -/
theorem judge_keeps {raised : Fault} (harmless : ¬ handler.Fatal state raised) (now : Nat) :
    (handler.judge raised now state).state.session = state.session ∧
      losses (contents (handler.judge raised now state).notes) = [] := by
  rw [judge_of_not_fatal now harmless]
  exact session_of_chain (handler.follows_settle _ now state)

/-- What the judgement of a fault reports as lost. -/
def lossOf (handler : Handler τ) (state : State τ) (raised : Fault) : List Event :=
  if handler.Fatal state raised then
    state.session.toList.map fun session =>
      .sessionLockLost handler.container session.id (handler.classified raised)
  else []

theorem losses_judge (handler : Handler τ) (raised : Fault) (now : Nat) (state : State τ) :
    losses (contents (handler.judge raised now state).notes) = handler.lossOf state raised := by
  by_cases fatal : handler.Fatal state raised
  · rw [lossOf, if_pos fatal]
    obtain ⟨bound, running, ends⟩ := fatal
    obtain ⟨session, bound⟩ := Option.isSome_iff_exists.mp bound
    have silent := (session_of_chain (handler.follows_dropLink now state.loseLock)).2
    rw [judge_of_fatal now bound running ends, bound]
    exact congrArg (_ :: ·) silent
  · rw [lossOf, if_neg fatal]
    exact (judge_keeps fatal now).2

/-- What a fatal fault does: it comes back unchanged, and the session and the link are gone. -/
structure GivesUp (handler : Handler τ) (raised : Fault) (state : State τ)
    (judgement : Course Note (State τ) (Except Fault Fault)) : Prop where
  value : judgement.value = .error (handler.classified raised)
  -- The lock is lost, and nothing else about the session is changed.
  lost : ∃ session link fault, state.session = some session ∧ state.link = some link ∧
    judgement.state.session = some session.loseLock ∧
    contents judgement.notes =
      [.event (.sessionLockLost handler.container session.id (handler.classified raised)),
        .linkClosing link, .linkReleased link fault, .event (handler.closeEvent fault)]
  stopped : judgement.state.running = false
  vacant : judgement.state.link = none

theorem judge_gives_up {raised : Fault} (consistent : state.Consistent)
    (fatal : handler.Fatal state raised) (now : Nat) :
    handler.GivesUp raised state (handler.judge raised now state) := by
  obtain ⟨bound, running, ends⟩ := fatal
  obtain ⟨session, bound⟩ := Option.isSome_iff_exists.mp bound
  have held := consistent.running
  rw [running, eq_comm, Option.isSome_iff_exists] at held
  obtain ⟨link, held⟩ := held
  have lost : state.loseLock.session = some session.loseLock := by
    simp only [State.loseLock, bound, Option.map_some]
  have stillHeld : state.loseLock.link = some link := held
  rw [judge_of_fatal now bound running ends, dropLink_of_some now stillHeld]
  exact ⟨rfl, ⟨session, link, _, bound, held, lost, rfl⟩, rfl, rfl⟩

/-- The attempt of a round fails with a fault that ends the session of the running handler. -/
def FatalRound (handler : Handler τ) (job : Retry.Job (State τ) α) (stage : Retry.Stage (State τ))
    (raised : Fault) : Prop :=
  (job.tried stage).value = .error raised ∧ raised.isAbort = false ∧
    handler.Fatal (job.tried stage).state raised

/-- What the handler reports as lost in a round, besides what the attempt reports. -/
def roundLoss (handler : Handler τ) (job : Retry.Job (State τ) α)
    (stage : Retry.Stage (State τ)) : List Event :=
  match (job.ruling stage).raised? with
  | none => []
  | some raised => handler.lossOf (job.tried stage).state raised

theorem roundLoss_of_fatal {job : Retry.Job (State τ) α} {stage : Retry.Stage (State τ)}
    {raised : Fault} (fatal : handler.FatalRound job stage raised) {session : Session}
    (bound : (job.tried stage).state.session = some session) :
    handler.roundLoss job stage =
      [.sessionLockLost handler.container session.id (handler.classified raised)] := by
  obtain ⟨failed, noSignal, fatal⟩ := fatal
  rw [roundLoss, Retry.Job.raised?_ruling_eq_some_iff.mpr ⟨failed, noSignal⟩]
  simp only [lossOf, if_pos fatal, bound, Option.toList_some, List.map_cons, List.map_nil]

theorem roundLoss_of_harmless {job : Retry.Job (State τ) α} {stage : Retry.Stage (State τ)}
    (harmless : ∀ raised, ¬ handler.FatalRound job stage raised) :
    handler.roundLoss job stage = [] := by
  unfold roundLoss
  cases judged : (job.ruling stage).raised? with
  | none => rfl
  | some raised =>
    obtain ⟨failed, noSignal⟩ := Retry.Job.raised?_ruling_eq_some_iff.mp judged
    exact if_neg fun fatal => harmless raised ⟨failed, noSignal, fatal⟩

theorem losses_report? (job : Retry.Job (State τ) α) (stage : Retry.Stage (State τ))
    (instant : Nat) :
    losses (contents ((job.report? stage).toList.map (⟨instant, .event ·⟩))) = [] := by
  unfold Retry.Job.report?
  cases job.ruling stage <;> rfl

section Rounds

variable {terms : Retry.Terms} {attempt : Retry.Context → Program τ (Except Fault α)}
variable {stage : Retry.Stage (State τ)}

/-- A fatal round ends the call with the classified fault. -/
theorem ruling_of_fatalRound (reachable : handler.Reachable stage.state) {raised : Fault}
    (fatal : handler.FatalRound (handler.job terms attempt) stage raised) :
    (handler.job terms attempt).ruling stage = .verdict raised (handler.classified raised) := by
  obtain ⟨failed, noSignal, fatal⟩ := fatal
  have tried : handler.Reachable ((handler.job terms attempt).tried stage).state := reachable.tried
  have givenUp := judge_gives_up tried.consistent fatal ((handler.job terms attempt).triedAt stage)
  exact Retry.Job.ruling_eq_iff.mpr ⟨failed, noSignal, givenUp.value⟩

theorem session_next
    (harmless : ∀ raised, ¬ handler.FatalRound (handler.job terms attempt) stage raised) :
    let job := handler.job terms attempt
    (job.next stage).state.session = (job.tried stage).state.session := by
  intro job
  cases judged : (job.ruling stage).raised? with
  | none => simp only [Retry.Job.next, judged]
  | some raised =>
    obtain ⟨failed, noSignal⟩ := Retry.Job.raised?_ruling_eq_some_iff.mp judged
    have spared : ¬ handler.Fatal (job.tried stage).state raised := fun fatal =>
      harmless raised ⟨failed, noSignal, fatal⟩
    simp only [Retry.Job.next, judged]
    exact (judge_keeps spared (job.triedAt stage)).1

/-- A round reports what its attempt reports as lost, and what the handler loses by it. -/
theorem losses_roundNotes (stage : Retry.Stage (State τ)) :
    let job := handler.job terms attempt
    losses (contents (job.roundNotes stage)) =
      losses (contents (job.tried stage).notes) ++ handler.roundLoss job stage := by
  intro job
  have started (notes : List (Stamped Note)) :
      losses (contents (⟨stage.instant, .attempt (job.told stage)⟩ :: notes)) =
        losses (contents notes) := rfl
  cases judged : (job.ruling stage).raised? with
  | none =>
    simp only [Retry.Job.roundNotes, roundLoss, judged, Retry.Job.attemptNotes, started,
      List.append_nil]
  | some raised =>
    have lost : losses (contents (⟨job.triedAt stage, .judged raised⟩ ::
        (job.judgement stage raised).notes)) = handler.lossOf (job.tried stage).state raised :=
      handler.losses_judge raised _ _
    simp only [Retry.Job.roundNotes, roundLoss, judged, Retry.Job.judgedNotes,
      Retry.Job.attemptNotes, contents_append, losses_append, started, lost, losses_report?,
      List.append_nil]

end Rounds

/-- No fault in the run of a program is fatal when it is judged, and nobody else gives up the
session either. -/
def Program.Harmless (handler : Handler τ) : {α : Type} → Program τ α → Nat → State τ → Prop
  | _, .andThen first next, now, state =>
    let course := first.run handler now state
    first.Harmless handler now state ∧
      (next course.value).Harmless handler (now + course.took) course.state
  | _, .record memo, _, _ => memo ≠ .lost
  | _, .judge fault, _, state => ¬ handler.Fatal state fault
  | _, .retried terms attempt, start, state =>
    let job := handler.job terms attempt
    ∀ last, job.Account start state last → ∀ index ≤ last,
      let stage := job.stageAt start state index
      (attempt (job.told stage)).Harmless handler stage.instant stage.state ∧
        ∀ raised, ¬ handler.FatalRound job stage raised
  | _, .done _, _, _ | _, .apart _, _, _ | _, .look, _, _ | _, .ensureUsable, _, _ => True
  | _, .openLink, _, _ | _, .dropLink, _, _ | _, .shutDown, _, _ | _, .exchange .., _, _ => True

theorem lockLost?_of_chain {first second : State τ} {notes : List Note}
    (chain : Chain handler.LinkMove first notes second) :
    second.lockLost? = first.lockLost? ∧ losses notes = [] := by
  obtain ⟨kept, silent⟩ := session_of_chain chain
  exact ⟨by rw [State.lockLost?, kept, State.lockLost?], silent⟩

theorem Memo.keeps {memo : Memo} (kept : memo ≠ .lost) (session : Session) :
    (memo.apply session).lockLost = session.lockLost := by
  cases memo with
  | lost => exact absurd rfl kept
  | heldUntil second => rfl
  | renewalFailed fault => rfl

/-- If no round is fatal, a run is as harmless as its attempts. -/
theorem harmless_retried {terms : Retry.Terms}
    {attempt : Retry.Context → Program τ (Except Fault α)} {start last : Nat} {state : State τ}
    (account : (handler.job terms attempt).Account start state last)
    (rounds : ∀ index ≤ last,
      let job := handler.job terms attempt
      let stage := job.stageAt start state index
      ((job.tried stage).state.lockLost? = stage.state.lockLost? ∧
        losses (contents (job.tried stage).notes) = []) ∧
        ∀ raised, ¬ handler.FatalRound job stage raised) :
    ((handler.job terms attempt).run start state).state.lockLost? = state.lockLost? ∧
      losses (contents ((handler.job terms attempt).run start state).notes) = [] := by
  let job := handler.job terms attempt
  -- One round more than there are: the stage after the last round is where the run ends.
  have kept (index : Nat) (within : index ≤ last + 1) :
      (job.stageAt start state index).state.lockLost? = state.lockLost? := by
    induction index with
    | zero => rfl
    | succ index ih =>
      obtain ⟨attempted, spared⟩ := rounds index (by omega)
      rw [← ih (by omega), ← attempted.1]
      exact congrArg (Option.map Session.lockLost) (session_next spared)
  refine ⟨?_, ?_⟩
  · rw [account.state]
    exact kept (last + 1) (Nat.le_refl _)
  · rw [account.notes, losses_flatMap, List.flatMap_eq_nil_iff]
    intro index member
    obtain ⟨attempted, spared⟩ := rounds index (Nat.le_of_lt_succ (List.mem_range.mp member))
    rw [losses_roundNotes, roundLoss_of_harmless spared, List.append_nil]
    exact attempted.2

/-- Without a fatal fault the lock is as lost as it was, and no loss is reported. -/
theorem harmless_run (program : Program τ α) {now : Nat} {state : State τ}
    (harmless : program.Harmless handler now state) :
    (program.run handler now state).state.lockLost? = state.lockLost? ∧
      losses (contents (program.run handler now state).notes) = [] := by
  induction program generalizing now state with
  | done value => exact ⟨rfl, rfl⟩
  | look => exact ⟨rfl, rfl⟩
  | apart activity => exact lockLost?_of_chain (handler.follows_ask activity now state)
  | ensureUsable => exact lockLost?_of_chain (handler.follows_ensureUsable now state)
  | openLink => exact lockLost?_of_chain (handler.follows_openLink now state)
  | dropLink => exact lockLost?_of_chain (handler.follows_dropLink now state)
  | shutDown => exact lockLost?_of_chain (handler.follows_shutDown now state)
  | exchange errand keepAlive timeout =>
    exact lockLost?_of_chain (handler.follows_exchange errand keepAlive timeout now state)
  | record memo =>
    refine ⟨?_, rfl⟩
    show (state.session.map memo.apply).map Session.lockLost = state.session.map Session.lockLost
    rw [Option.map_map]
    exact Option.map_congr fun session _ => Memo.keeps harmless session
  | judge fault =>
    obtain ⟨kept, silent⟩ := judge_keeps harmless now
    exact ⟨by rw [State.lockLost?, State.lockLost?]; exact congrArg _ kept, silent⟩
  | andThen first next ihFirst ihNext =>
    obtain ⟨start, rest⟩ := harmless
    obtain ⟨kept, silent⟩ := ihFirst start
    obtain ⟨keptNext, silentNext⟩ := ihNext _ rest
    refine ⟨keptNext.trans kept, ?_⟩
    simp only [Program.run, Activity.bind_apply, Activity.notes_after, contents_append,
      losses_append]
    rw [silent, silentNext]
    rfl
  | retried terms attempt ih =>
    let job := handler.job terms attempt
    rcases job.run_account now state with unstarted | ⟨last, account⟩
    · rw [run_retried, unstarted.run]
      exact ⟨rfl, rfl⟩
    · refine harmless_retried account fun index within => ?_
      obtain ⟨attempted, spared⟩ := harmless last account index within
      exact ⟨ih _ attempted, spared⟩

/-- What a retried operation does to the session of a handler. -/
structure LossAccount (handler : Handler τ) (terms : Retry.Terms)
    (attempt : Retry.Context → Program τ (Except Fault α)) (start : Nat) (state : State τ)
    (last : Nat) : Prop where
  account : (handler.job terms attempt).Account start state last
  -- A fatal round is the last one. Its fault is the result, it leaves nothing but the loss of the
  -- session and of the link, and the state stays as that leaves it.
  givenUp : let job := handler.job terms attempt
    ∀ index ≤ last, ∀ raised, handler.FatalRound job (job.stageAt start state index) raised →
      let stage := job.stageAt start state index
      index = last ∧
        (job.run start state).value = some (.error (handler.classified raised)) ∧
        handler.GivesUp raised (job.tried stage).state (job.judgement stage raised) ∧
        (job.run start state).state = (job.judgement stage raised).state ∧
        job.roundNotes stage = job.judgedNotes stage raised
  -- Every other round leaves the session as its attempt does.
  kept : let job := handler.job terms attempt
    ∀ index ≤ last,
      (∀ raised, ¬ handler.FatalRound job (job.stageAt start state index) raised) →
      (job.stageAt start state (index + 1)).state.session =
        (job.tried (job.stageAt start state index)).state.session
  -- What is reported as lost is what the attempts report, and what the handler loses by them.
  reported : let job := handler.job terms attempt
    losses (contents (job.run start state).notes) =
      (List.range (last + 1)).flatMap fun index =>
        losses (contents (job.tried (job.stageAt start state index)).notes) ++
          handler.roundLoss job (job.stageAt start state index)
  -- That is one loss for a fatal round, and none for another one.
  single : let job := handler.job terms attempt
    ∀ index ≤ last,
      (∀ raised session, handler.FatalRound job (job.stageAt start state index) raised →
        (job.tried (job.stageAt start state index)).state.session = some session →
        handler.roundLoss job (job.stageAt start state index) =
          [.sessionLockLost handler.container session.id (handler.classified raised)]) ∧
      ((∀ raised, ¬ handler.FatalRound job (job.stageAt start state index) raised) →
        handler.roundLoss job (job.stageAt start state index) = [])
  harmless : (Program.retried terms attempt).Harmless handler start state →
    ((handler.job terms attempt).run start state).state.lockLost? = state.lockLost? ∧
      losses (contents ((handler.job terms attempt).run start state).notes) = []

/-- A fatal fault ends a retried operation and takes the session and the link with it; without one
the handler leaves the session alone. An operation whose deadline cannot be told does nothing.
Without a session no program ever reports the loss of one. -/
theorem retried_session (reachable : handler.Reachable state) (terms : Retry.Terms)
    (attempt : Retry.Context → Program τ (Except Fault α)) (start : Nat) :
    ((handler.job terms attempt).Unstarted start state ∨
        ∃ last, handler.LossAccount terms attempt start state last) ∧
      ∀ {β : Type} (program : Program τ β) (now : Nat), state.session = none →
        losses (contents (program.run handler now state).notes) = [] := by
  refine ⟨((handler.job terms attempt).run_account start state).imp_right fun ⟨last, account⟩ => ?_,
    fun program now entity => (entity_of_chain (program.follows_run handler now state) entity).2⟩
  refine ⟨last, account, ?_, ?_, ?_, ?_, ?_⟩
  · intro job index within raised fatal stage
    have found : handler.Reachable stage.state := reachable.stageAt start index
    have tried : handler.Reachable (job.tried stage).state := found.tried
    have ruling : job.ruling (job.stageAt start state index) =
        .verdict raised (handler.classified raised) := ruling_of_fatalRound found fatal
    have final : index = last := account.eq_last within (congrArg Retry.Ruling.ending? ruling)
    subst final
    obtain ⟨left, notes⟩ := Retry.Job.next_of_verdict ruling
    refine ⟨rfl, ?_, judge_gives_up tried.consistent fatal.2.2 _, ?_, notes⟩
    · rw [account.value, ruling]
      rfl
    · rw [account.state, Retry.Job.stageAt_succ]
      exact left
  · intro job index _ spared
    rw [Retry.Job.stageAt_succ]
    exact session_next spared
  · intro job
    rw [account.notes, losses_flatMap]
    exact congrArg (List.range (last + 1)).flatMap (funext fun _ => losses_roundNotes _)
  · intro job index _
    exact ⟨fun _ _ fatal bound => roundLoss_of_fatal fatal bound, roundLoss_of_harmless⟩
  · intro harmless
    exact harmless_run _ harmless

def cutOff : Retry.Context → Program Rehearsal (Except Fault Json) :=
  fun _ => .apart (Rehearsal.finish ⟨[], 0, .error (.connection "gone" none)⟩)

def boundOpen : State Rehearsal :=
  (Program.openLink.run onStage 0 (initial (some { id := "s" }) {})).state

theorem cutOff_session :
    onStage.Reachable boundOpen ∧
      ((onStage.job {} cutOff).run 0 boundOpen).value = some (.error (.connection "gone" none)) ∧
      ((onStage.job {} cutOff).run 0 boundOpen).state.lockLost? = some true ∧
      ∃ last, onStage.LossAccount {} cutOff 0 boundOpen last := by
  have reachable : onStage.Reachable boundOpen := .after (.initial _ _) .openLink 0
  have account := (retried_session reachable {} cutOff 0).1
  exact ⟨reachable, rfl, rfl, account.resolve_left (Retry.Job.not_unstarted rfl)⟩

end Handler
end BusLink
