import BusLink.Proofs.Handler.Reopening
import BusLink.Proofs.Handler.SessionLoss

set_option autoImplicit false

namespace BusLink

namespace Fault

/-- Whether a fault takes the link away, is worth a retry, and spares the session. -/
def relocates (fault : Fault) : Bool :=
  fault.shutsDown && fault.retryable && !fault.endsSession

/-- The faults that do so once they have their meaning. -/
inductive Relocating : Fault → Prop where
  | unlockable (reason : String) : Relocating (.sessionCannotBeLocked reason)
  | transport (reason : String) (condition : Option String) :
      Relocating (.transport reason condition true true)
  -- The service does not let the session be locked.
  | refused (raw : RawFailure) (known : raw.known? = some .sessionCannotBeLocked) :
      Relocating (.raw raw)
  -- The transport fails without a known condition and holds itself to be retryable.
  | protocol (raw : RawFailure) (unknown : raw.known? = none) (kind : raw.kind = .protocol)
      (retryable : raw.retryable = true) : Relocating (.raw raw)

theorem relocating_raw_iff (raw : RawFailure) (endpoint : Option String) :
    Relocating (.raw raw) ↔ (raw.classify endpoint).relocates = true := by
  constructor
  · intro relocating
    cases relocating with
    | refused _ known => simp only [RawFailure.classify, known]; rfl
    | protocol _ unknown kind retryable =>
      simp only [RawFailure.classify, unknown, RawFailure.byKind, kind, retryable]
      rfl
  · intro relocates
    cases known : raw.known? with
    | some condition =>
      simp only [RawFailure.classify, known] at relocates
      cases condition with
      | sessionCannotBeLocked => exact .refused raw known
      | _ => cases relocates
    | none =>
      simp only [RawFailure.classify, known, RawFailure.byKind] at relocates
      cases kind : raw.kind with
      | protocol =>
        have retryable : raw.retryable = true := by
          simpa [kind, Fault.relocates, shutsDown, Fault.retryable, endsSession] using relocates
        exact .protocol raw known kind retryable
      | _ =>
        rw [kind] at relocates
        cases relocates

theorem relocating_iff (raised : Fault) (endpoint : Option String) :
    raised.Relocating ↔ (raised.classify endpoint).relocates = true := by
  cases raised with
  | raw failure => exact relocating_raw_iff failure endpoint
  | sessionCannotBeLocked reason => exact ⟨fun _ => rfl, fun _ => .unlockable reason⟩
  | transport reason condition retryable shutsDown =>
    constructor
    · intro relocating
      cases relocating
      rfl
    · intro relocates
      have flags : shutsDown = true ∧ retryable = true := by
        simpa [classify, Fault.relocates, Fault.shutsDown, Fault.retryable, endsSession]
          using relocates
      obtain ⟨rfl, rfl⟩ := flags
      exact .transport reason condition
  | _ =>
    constructor
    · intro relocating
      cases relocating
    · intro relocates
      cases relocates

end Fault

namespace Handler

variable {τ α : Type} {handler : Handler τ} {state : State τ}

theorem ledger_of_chain {first second : State τ} {notes : List Note}
    (chain : Chain handler.Move first notes second) (consistent : first.Consistent) :
    first.link.toList ++ grants notes = closings notes ++ second.link.toList := by
  simpa only [Phase.owned_ofLink] using (path_of_chain chain consistent).ledger

/-- A fault takes the link of a running session handler away if it tears the link down or ends the
session. -/
theorem link_judge_eq_none_iff (consistent : state.Consistent) (bound : state.session.isSome = true)
    {link : Link} (held : state.link = some link) (raised : Fault) (now : Nat) :
    (handler.judge raised now state).state.link = none ↔
      (handler.classified raised).shutsDown = true ∨
        (handler.classified raised).endsSession = true := by
  have running : state.running = true := by rw [consistent.running, held, Option.isSome_some]
  by_cases fatal : handler.Fatal state raised
  · obtain ⟨session, found⟩ := Option.isSome_iff_exists.mp bound
    have dropped := handler.link_dropLink now state.loseLock
    rw [judge_of_fatal now found running fatal.2.2]
    exact ⟨fun _ => .inr fatal.2.2, fun _ => dropped⟩
  · have spared : ¬ (handler.classified raised).endsSession = true := fun ends =>
      fatal ⟨bound, running, ends⟩
    rw [judge_of_not_fatal now fatal]
    cases teardown : (handler.classified raised).shutsDown with
    | true =>
      have dropped := handler.link_dropLink now state
      rw [settle_of_shutsDown now teardown]
      exact ⟨fun _ => .inl rfl, fun _ => dropped⟩
    | false =>
      rw [settle_of_not_shutsDown now teardown]
      simp [held, spared]

/-- A fault that takes the link away and is judged to be worth a retry relocates. -/
theorem relocates_iff (consistent : state.Consistent) (bound : state.session.isSome = true)
    {link : Link} (held : state.link = some link) (raised : Fault) (now : Nat) :
    (handler.classified raised).relocates = true ↔
      (handler.judge raised now state).state.link = none ∧
        (handler.judge raised now state).value = .ok (handler.classified raised) := by
  have running : state.running = true := by rw [consistent.running, held, Option.isSome_some]
  have fatal : handler.Fatal state raised ↔ (handler.classified raised).endsSession = true :=
    ⟨fun fatal => fatal.2.2, fun ends => ⟨bound, running, ends⟩⟩
  rw [link_judge_eq_none_iff consistent bound held, judge_eq_ok_iff, fatal, Fault.relocates]
  cases (handler.classified raised).shutsDown <;>
    cases (handler.classified raised).retryable <;>
    cases (handler.classified raised).endsSession <;> simp

theorem Move.isSome_session {first second : State τ} {notes : List Note}
    (move : handler.Move first notes second) (bound : first.session.isSome = true) :
    second.session.isSome = true := by
  cases move with
  | link move => rw [move.session.1, bound]
  | recorded change same lost => rw [Option.isSome_map, bound]
  | condemned session fault found running ends => rw [State.loseLock, Option.isSome_map, bound]

/-- A failed attempt leaves a link, and the judgement of its fault takes that link away. -/
structure Dislodged (job : Retry.Job (State τ) α) (stage : Retry.Stage (State τ))
    (raised : Fault) : Prop where
  failed : (job.tried stage).value = .error raised
  noSignal : raised.isAbort = false
  held : ∃ link, (job.tried stage).state.link = some link
  torn : (job.judgement stage raised).state.link = none

def relocatedBy (handler : Handler τ) (job : Retry.Job (State τ) α)
    (stage : Retry.Stage (State τ)) : Bool :=
  (faultOf? (job.tried stage).value).any fun raised => (handler.classified raised).relocates

theorem relocatedBy_iff {job : Retry.Job (State τ) α} {stage : Retry.Stage (State τ)} :
    handler.relocatedBy job stage = true ↔ ∃ raised, (job.tried stage).value = .error raised ∧
      (handler.classified raised).relocates = true := by
  unfold relocatedBy
  cases (job.tried stage).value with
  | ok value => simp [faultOf?]
  | error raised => simp [faultOf?]

section Rounds

variable {terms : Retry.Terms} {attempt : Retry.Context → Program τ (Except Fault α)}
variable {start last index : Nat}

/-- A run goes on after a fault that is worth a retry if one is left and the wait before it is
allowed. -/
theorem Dislodged.ruling {raised fault : Fault}
    (dislodged : Dislodged (handler.job terms attempt)
      ((handler.job terms attempt).stageAt start state index) raised)
    (starts : (handler.job terms attempt).starts start = true)
    (left : index < handler.configuration.retries.toNat) :
    let job := handler.job terms attempt
    let stage := job.stageAt start state index
    (job.judgement stage raised).value = .ok fault →
      job.mayWait stage.deadline stage.retry (job.judgedAt stage raised) = true →
      job.ruling stage = .goesOn raised fault := by
  intro job stage judged allowed
  have counted : stage.index = index := job.index_stageAt start state index
  have unspent : ¬ job.policy.retries < stage.retry := by
    intro spent
    have small : stage.index ≤ handler.configuration.retries.toNat := by omega
    have full : stage.index = handler.configuration.retries.toNat :=
      Retry.Job.index_of_retries_lt small spent
    omega
  have tellable : job.overflows stage.deadline stage.retry (job.judgedAt stage raised) = false := by
    rw [job.deadline_stageAt] at allowed ⊢
    exact Retry.Job.overflows_of_mayWait starts allowed
  exact Retry.Job.ruling_eq_iff.mpr
    ⟨dislodged.failed, dislodged.noSignal, judged, unspent, tellable, allowed⟩

/-- After an attempt whose link is taken away there is another one exactly if its fault relocates, a
retry is left, and the wait before it is allowed. -/
theorem Dislodged.followed_iff {raised : Fault} (reachable : handler.Reachable state)
    (bound : state.session.isSome = true)
    (account : (handler.job terms attempt).Account start state last) (reached : index ≤ last)
    (dislodged : Dislodged (handler.job terms attempt)
      ((handler.job terms attempt).stageAt start state index) raised) :
    let job := handler.job terms attempt
    let stage := job.stageAt start state index
    index < last ↔ (handler.classified raised).relocates = true ∧
      index < handler.configuration.retries.toNat ∧
      job.mayWait stage.deadline stage.retry (job.judgedAt stage raised) = true := by
  intro job stage
  obtain ⟨link, held⟩ := dislodged.held
  have found : handler.Reachable (job.tried stage).state := (reachable.stageAt start index).tried
  have boundAt : (job.tried stage).state.session.isSome = true :=
    keeps_tried Move.isSome_session (keeps_stageAt Move.isSome_session bound start index)
  have relocates : (handler.classified raised).relocates = true ↔
      (job.judgement stage raised).value = .ok (handler.classified raised) :=
    (relocates_iff found.consistent boundAt held raised (job.triedAt stage)).trans
      (and_iff_right dislodged.torn)
  have within : last ≤ handler.configuration.retries.toNat := account.within
  constructor
  · intro before
    obtain ⟨other, fault, ruling⟩ :=
      (Retry.Ruling.ending?_eq_none_iff _).mp (account.goesOn index before)
    obtain ⟨failed, _, judged, _, _, allowed⟩ := Retry.Job.ruling_eq_iff.mp ruling
    cases dislodged.failed.symm.trans failed
    obtain ⟨rfl, _⟩ := eq_of_judge_ok judged
    exact ⟨relocates.mpr judged, by omega, allowed⟩
  · rintro ⟨relocating, before, allowed⟩
    have ruling : job.ruling stage = .goesOn raised (handler.classified raised) :=
      dislodged.ruling account.starts before (relocates.mp relocating) allowed
    have unfinished : (job.ruling stage).ending? = none := by rw [ruling]; rfl
    by_contra final
    have same : index = last := by omega
    subst same
    have full : index = handler.configuration.retries.toNat := (account.overrun unfinished).1
    omega

theorem harmless_of_goesOn {stage : Retry.Stage (State τ)}
    (reachable : handler.Reachable stage.state)
    (goesOn : ((handler.job terms attempt).ruling stage).ending? = none) (raised : Fault) :
    ¬ handler.FatalRound (handler.job terms attempt) stage raised := by
  intro fatal
  rw [ruling_of_fatalRound reachable fatal] at goesOn
  cases goesOn

/-- A link that an attempt leaves is there for the next attempt, unless the fault relocates. -/
theorem link_next_of_goesOn {stage : Retry.Stage (State τ)} {raised : Fault} {link : Link}
    (reachable : handler.Reachable stage.state) (bound : stage.state.session.isSome = true)
    (goesOn : ((handler.job terms attempt).ruling stage).ending? = none)
    (failed : ((handler.job terms attempt).tried stage).value = .error raised)
    (held : ((handler.job terms attempt).tried stage).state.link = some link) :
    ((handler.job terms attempt).next stage).state.link =
      if (handler.classified raised).relocates then none else some link := by
  let job := handler.job terms attempt
  have found : handler.Reachable (job.tried stage).state := reachable.tried
  have running : (job.tried stage).state.running = true := by
    rw [found.consistent.running, held, Option.isSome_some]
  have boundAt : (job.tried stage).state.session.isSome = true :=
    keeps_tried Move.isSome_session bound
  obtain ⟨other, fault, ruling⟩ := (Retry.Ruling.ending?_eq_none_iff _).mp goesOn
  obtain ⟨again, _, judged, _⟩ := Retry.Job.ruling_eq_iff.mp ruling
  cases failed.symm.trans again
  obtain ⟨rfl, retryable, spared⟩ := eq_of_judge_ok judged
  have outlives : (handler.classified raised).endsSession = false := by
    rw [← Bool.not_eq_true]
    intro ends
    exact spared ⟨boundAt, running, ends⟩
  -- Of the three flags of the fault only the teardown is open.
  have relocates : (handler.classified raised).relocates =
      (handler.classified raised).shutsDown := by
    simp only [Fault.relocates, retryable, outlives, Bool.and_true, Bool.not_false]
  have next : (job.next stage).state = (job.judgement stage raised).state := by
    simp only [Retry.Job.next, job, ruling, Retry.Ruling.raised?]
  have kept : (job.judgement stage raised).state.link =
      if (handler.classified raised).shutsDown then none else (job.tried stage).state.link :=
    link_judge judged
  rw [relocates, ← held, ← kept, ← next]

theorem held_le_of_goesOn {stage : Retry.Stage (State τ)}
    (reachable : handler.Reachable stage.state) (bound : stage.state.session.isSome = true)
    (goesOn : ((handler.job terms attempt).ruling stage).ending? = none) :
    let job := handler.job terms attempt
    (job.tried stage).state.link.toList.length ≤
      (job.next stage).state.link.toList.length +
        if handler.relocatedBy job stage = true then 1 else 0 := by
  intro job
  obtain ⟨raised, fault, ruling⟩ := (Retry.Ruling.ending?_eq_none_iff _).mp goesOn
  have failed : (job.tried stage).value = .error raised := (Retry.Job.ruling_eq_iff.mp ruling).1
  have relocated : handler.relocatedBy job stage = (handler.classified raised).relocates := by
    rw [relocatedBy, failed]
    rfl
  cases held : (job.tried stage).state.link with
  | none => exact Nat.zero_le _
  | some link =>
    rw [link_next_of_goesOn reachable bound goesOn failed held, relocated]
    cases (handler.classified raised).relocates <;> exact Nat.le_refl 1

end Rounds

section Errands

variable {errand : Errand τ α} {timeout : Option Nat} {start last : Nat}

theorem ledger_exchange (handler : Handler τ) (consistent : state.Consistent)
    (errand : Errand τ α) (keepAlive : Bool) (timeout : Option Nat) (now : Nat) :
    state.link.toList ++
        grants (contents (handler.exchange errand keepAlive timeout now state).notes) =
      (handler.exchange errand keepAlive timeout now state).state.link.toList := by
  have moves := (handler.follows_exchange errand keepAlive timeout now state).mono Move.link
  have ledger := ledger_of_chain moves consistent
  rwa [closings_exchange, List.nil_append] at ledger

def handedOver (job : Retry.Job (State τ) α) (stage : Retry.Stage (State τ)) : List Link :=
  grants (contents (job.tried stage).notes)

theorem held_errand {stage : Retry.Stage (State τ)} (reachable : handler.Reachable stage.state) :
    let job := handler.errandJob errand timeout
    stage.state.link.toList.length + (handedOver job stage).length =
      (job.tried stage).state.link.toList.length := by
  intro job
  have ledger := handler.ledger_exchange reachable.consistent errand true
    (job.told stage).remaining stage.instant
  have counted := congrArg List.length ledger
  rwa [List.length_append] at counted

/-- Up to a stage every link that was handed over is held still or was lost to a fault that
relocates. -/
theorem handedOver_le (reachable : handler.Reachable state) (bound : state.session.isSome = true)
    (account : (handler.errandJob errand timeout).Account start state last) {count : Nat}
    (reached : count ≤ last) :
    let job := handler.errandJob errand timeout
    state.link.toList.length + ((List.range count).flatMap fun index =>
        handedOver job (job.stageAt start state index)).length ≤
      (List.range count).countP (fun index =>
        handler.relocatedBy job (job.stageAt start state index)) +
      (job.stageAt start state count).state.link.toList.length := by
  intro job
  induction count with
  | zero => simp [Retry.Job.stageAt]
  | succ count ih =>
    have before := ih (by omega)
    have found : handler.Reachable (job.stageAt start state count).state :=
      reachable.stageAt start count
    have boundAt : (job.stageAt start state count).state.session.isSome = true :=
      keeps_stageAt Move.isSome_session bound start count
    have goesOn := account.goesOn count (by omega)
    have attempt : (job.stageAt start state count).state.link.toList.length +
        (handedOver job (job.stageAt start state count)).length =
          (job.tried (job.stageAt start state count)).state.link.toList.length := held_errand found
    have onward : (job.tried (job.stageAt start state count)).state.link.toList.length ≤
        (job.next (job.stageAt start state count)).state.link.toList.length +
          if handler.relocatedBy job (job.stageAt start state count) = true then 1 else 0 :=
      held_le_of_goesOn found boundAt goesOn
    rw [List.range_succ, List.flatMap_append, List.flatMap_singleton, List.length_append,
      List.countP_append, List.countP_singleton, Retry.Job.stageAt_succ]
    omega

/-- In a whole run a link is handed over once, if none was held, and once more for each fault that
relocates. -/
theorem grants_le (reachable : handler.Reachable state) (bound : state.session.isSome = true)
    (account : (handler.errandJob errand timeout).Account start state last) :
    let job := handler.errandJob errand timeout
    state.link.toList.length + (grants (contents (job.run start state).notes)).length ≤
      (List.range last).countP (fun index =>
        handler.relocatedBy job (job.stageAt start state index)) + 1 := by
  intro job
  have found : handler.Reachable (job.stageAt start state last).state :=
    reachable.stageAt start last
  have granted : job.AttemptsOnly Note.granted? := attemptsOnly_job Note.ofAttempts_granted? _ _
  have whole : grants (contents (job.run start state).notes) =
      (List.range (last + 1)).flatMap fun index => handedOver job (job.stageAt start state index) :=
    granted.run account
  have before : state.link.toList.length + ((List.range last).flatMap fun index =>
        handedOver job (job.stageAt start state index)).length ≤
      (List.range last).countP (fun index =>
        handler.relocatedBy job (job.stageAt start state index)) +
      (job.stageAt start state last).state.link.toList.length :=
    handedOver_le reachable bound account (Nat.le_refl last)
  have attempt : (job.stageAt start state last).state.link.toList.length +
      (handedOver job (job.stageAt start state last)).length =
        (job.tried (job.stageAt start state last)).state.link.toList.length := held_errand found
  have single : (job.tried (job.stageAt start state last)).state.link.toList.length ≤ 1 := by
    cases (job.tried (job.stageAt start state last)).state.link <;> simp
  rw [whole, List.range_succ, List.flatMap_append, List.flatMap_singleton, List.length_append]
  omega

theorem silent_of_goesOn {stage : Retry.Stage (State τ)}
    (reachable : handler.Reachable stage.state)
    (goesOn : ((handler.errandJob errand timeout).ruling stage).ending? = none) :
    let job := handler.errandJob errand timeout
    (job.next stage).state.session = stage.state.session ∧
      losses (contents (job.roundNotes stage)) = [] := by
  intro job
  have harmless := harmless_of_goesOn reachable goesOn
  have attempt := session_of_chain (handler.follows_exchange errand true
    (job.told stage).remaining stage.instant stage.state)
  have kept : (job.next stage).state.session = (job.tried stage).state.session :=
    session_next harmless
  have lost : losses (contents (job.tried stage).notes) = [] := attempt.2
  have reported : losses (contents (job.roundNotes stage)) =
      losses (contents (job.tried stage).notes) ++ handler.roundLoss job stage :=
    losses_roundNotes stage
  refine ⟨kept.trans attempt.1, ?_⟩
  rw [reported, lost]
  exact roundLoss_of_harmless harmless

/-- All that is to be said of the links of a retried exchange for a session. -/
structure RelocationAccount (handler : Handler τ) (errand : Errand τ α) (timeout : Option Nat)
    (start : Nat) (state : State τ) (last : Nat) : Prop where
  account : (handler.errandJob errand timeout).Account start state last
  -- A fault takes a link away if it tears the link down or ends the session.
  torn : let job := handler.errandJob errand timeout
    ∀ index ≤ last, ∀ raised,
      let stage := job.stageAt start state index
      (job.tried stage).state.link.isSome = true →
        ((job.judgement stage raised).state.link = none ↔
          (raised.classify handler.configuration.customEndpoint).shutsDown = true ∨
            (raised.classify handler.configuration.customEndpoint).endsSession = true)
  -- An attempt whose link is taken away is followed by another one exactly if its fault relocates,
  -- a retry is left, and the wait before it is allowed.
  followed : let job := handler.errandJob errand timeout
    ∀ index ≤ last, ∀ raised,
      let stage := job.stageAt start state index
      Dislodged job stage raised →
        (index < last ↔ raised.Relocating ∧ index < handler.configuration.retries.toNat ∧
          job.mayWait stage.deadline stage.retry (job.judgedAt stage raised) = true)
  -- The next attempt finds the link that this one leaves, unless the fault relocates.
  kept : let job := handler.errandJob errand timeout
    ∀ index < last, ∀ raised link,
      let stage := job.stageAt start state index
      let following := job.stageAt start state (index + 1)
      (job.tried stage).value = .error raised → (job.tried stage).state.link = some link →
        (raised.Relocating → following.state.link = none) ∧
          (¬ raised.Relocating → following.state.link = some link)
  -- Nothing is said or noted about the session when an attempt is followed by another one.
  silent : let job := handler.errandJob errand timeout
    ∀ index < last,
      let stage := job.stageAt start state index
      (job.stageAt start state (index + 1)).state.session = stage.state.session ∧
        losses (contents (job.roundNotes stage)) = []
  -- An attempt that finds no link asks for one, for the session as it is then.
  asked : let job := handler.errandJob errand timeout
    ∀ index ≤ last,
      let stage := job.stageAt start state index
      (handler.ensureUsable stage.instant stage.state).value = .ok () →
        linkRequests (contents (job.tried stage).notes) =
          if stage.state.link.isSome then [] else [handler.linkRequest stage.state.session]
  -- With the link at the start there is one link, and one more for each fault that relocates.
  bounded : let job := handler.errandJob errand timeout
    state.link.toList.length +
        (grants (contents (handler.exchangeRetrying errand timeout start state).notes)).length ≤
      (List.range last).countP (fun index =>
        handler.relocatedBy job (job.stageAt start state index)) + 1
  -- So there is one link only if no fault relocates.
  settled : let job := handler.errandJob errand timeout
    (∀ index < last, ∀ raised, (job.tried (job.stageAt start state index)).value = .error raised →
      ¬ raised.Relocating) →
    state.link.toList.length +
        (grants (contents (handler.exchangeRetrying errand timeout start state).notes)).length ≤ 1

/-- A retried exchange for a session moves to another link exactly after faults that relocate, as
long as there are retries left, and keeps silent about it. -/
theorem retried_relocation (reachable : handler.Reachable state)
    (bound : state.session.isSome = true) (plain : handler.outside.classify = Fault.classify)
    (errand : Errand τ α) (timeout : Option Nat) (start : Nat) :
    (handler.errandJob errand timeout).Unstarted start state ∨
      ∃ last, handler.RelocationAccount errand timeout start state last := by
  let job := handler.errandJob errand timeout
  refine (job.run_account start state).imp_right fun ⟨last, account⟩ => ?_
  have found (index : Nat) : handler.Reachable (job.stageAt start state index).state :=
    reachable.stageAt start index
  have boundAt (index : Nat) : (job.stageAt start state index).state.session.isSome = true :=
    keeps_stageAt Move.isSome_session bound start index
  have relocating (raised : Fault) :
      raised.Relocating ↔ (handler.classified raised).relocates = true := by
    rw [classified_of_plain plain]
    exact raised.relocating_iff _
  have bounded := grants_le reachable bound account
  refine ⟨last, account, ?_, ?_, ?_, ?_, ?_, bounded, ?_⟩
  · intro job index _ raised stage held
    obtain ⟨link, held⟩ := Option.isSome_iff_exists.mp held
    have tried : handler.Reachable (job.tried stage).state := (found index).tried
    have triedBound : (job.tried stage).state.session.isSome = true :=
      keeps_tried Move.isSome_session (boundAt index)
    rw [← classified_of_plain plain]
    exact link_judge_eq_none_iff tried.consistent triedBound held raised _
  · intro job index reached raised stage dislodged
    rw [relocating]
    exact dislodged.followed_iff reachable bound account reached
  · intro job index before raised link stage following failed held
    have next := link_next_of_goesOn (found index) (boundAt index) (account.goesOn index before)
      failed held
    rw [relocating]
    exact ⟨fun relocates => next.trans (if_pos relocates),
      fun spared => next.trans (if_neg spared)⟩
  · intro job index before stage
    exact silent_of_goesOn (found index) (account.goesOn index before)
  · intro job index _ stage usable
    exact linkRequests_exchange (found index).consistent usable errand true _
  · intro job settled
    have none : (List.range last).countP (fun index =>
        handler.relocatedBy job (job.stageAt start state index)) = 0 := by
      rw [List.countP_eq_zero]
      intro index member relocated
      obtain ⟨raised, failed, relocates⟩ := relocatedBy_iff.mp relocated
      exact settled index (List.mem_range.mp member) raised failed
        ((relocating raised).mpr relocates)
    exact Nat.le_trans bounded (Nat.le_of_eq (congrArg (· + 1) none))

end Errands

def strayFrame : Fault := .raw ⟨.protocol, none, "stray frame", true⟩

def interrupted : State Rehearsal :=
  initial (some { id := "s" }) { replies := [⟨⟨.error strayFrame, none⟩, 1⟩] }

theorem relocation_interrupted :
    triesTwice.Reachable interrupted ∧ interrupted.session.isSome = true ∧
      triesTwice.outside.classify = Fault.classify ∧
      (triesTwice.exchangeRetrying peek none 0 interrupted).value = some (.ok 200) ∧
      ∃ last, triesTwice.RelocationAccount peek none 0 interrupted last := by
  have reachable : triesTwice.Reachable interrupted := .initial _ _
  have account := retried_relocation reachable rfl rfl peek none 0
  exact ⟨reachable, rfl, rfl, rfl, account.resolve_left (Retry.Job.not_unstarted rfl)⟩

/-- The link of the running session is taken away, and yet there is another attempt, over another
link, of which the loss of the session is not told. -/
theorem relocated_interrupted :
    let job := triesTwice.errandJob peek none
    let notes := contents (triesTwice.exchangeRetrying peek none 0 interrupted).notes
    Dislodged job (job.stageAt 0 interrupted 0) strayFrame ∧
      (job.ruling (job.stageAt 0 interrupted 0)).ending? = none ∧
      grants notes = [⟨0, none⟩, ⟨1, none⟩] ∧ sendings notes = [⟨0, none⟩, ⟨1, none⟩] ∧
      losses notes = [] :=
  ⟨⟨rfl, rfl, ⟨⟨0, none⟩, rfl⟩, rfl⟩, rfl, rfl, rfl, rfl⟩

end Handler
end BusLink
