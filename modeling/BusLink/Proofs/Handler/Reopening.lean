import BusLink.Proofs.Handler.Faults
import BusLink.Proofs.Handler.Sending
import BusLink.Proofs.Retry.Tally

set_option autoImplicit false

namespace BusLink

/-- Whether a note is about a link or a session that is given up. -/
def Note.isParting : Note → Bool
  | .linkClosing _ | .linkReleased .. => true
  | .event (.linkClosed _) | .event (.linkCloseFailed ..) | .event (.sessionLockLost ..) => true
  | _ => false

/-- Notes of a kind are neither about the rounds of an operation nor about what is given up. -/
structure Note.OfAttempts {β : Type} (part : Note → Option β) : Prop where
  rounds : ∀ note, note.isRound = true → part note = none
  partings : ∀ note, note.isParting = true → part note = none

theorem Note.ofAttempts_requested? : Note.OfAttempts Note.requested? where
  rounds := by
    intro note round
    cases note <;> first | rfl | cases round
  partings := by
    intro note parting
    cases note <;> first | rfl | cases parting

theorem Note.ofAttempts_sentOver? : Note.OfAttempts Note.sentOver? where
  rounds := by
    intro note round
    cases note <;> first | rfl | cases round
  partings := by
    intro note parting
    cases note <;> first | rfl | cases parting

theorem Note.ofAttempts_granted? : Note.OfAttempts Note.granted? where
  rounds := by
    intro note round
    cases note <;> first | rfl | cases round
  partings := by
    intro note parting
    cases note <;> first | rfl | cases parting

namespace Handler

variable {τ α : Type} {handler : Handler τ} {state : State τ}

theorem isParting_closeEvent (fault : Option Fault) :
    (Note.event (handler.closeEvent fault)).isParting = true := by
  cases fault <;> rfl

theorem partings_dropLink (now : Nat) (state : State τ) :
    ∀ note ∈ contents (handler.dropLink now state).notes, note.isParting = true := by
  cases held : state.link with
  | none => simp [dropLink_of_none now held]
  | some link =>
    rw [dropLink_of_some now held]
    simp only [contents_cons, contents_nil, List.mem_cons, List.not_mem_nil, or_false]
    rintro note (rfl | rfl | rfl)
    · rfl
    · rfl
    · exact isParting_closeEvent _

theorem partings_judge (raised : Fault) (now : Nat) (state : State τ) :
    ∀ note ∈ contents (handler.judge raised now state).notes, note.isParting = true := by
  by_cases fatal : handler.Fatal state raised
  · obtain ⟨bound, running, ends⟩ := fatal
    obtain ⟨session, bound⟩ := Option.isSome_iff_exists.mp bound
    rw [judge_of_fatal now bound running ends]
    simp only [contents_cons, List.mem_cons]
    rintro note (rfl | later)
    · rfl
    · exact partings_dropLink now state.loseLock note later
  · rw [judge_of_not_fatal now fatal]
    cases teardown : (handler.classified raised).shutsDown with
    | true =>
      rw [settle_of_shutsDown now teardown]
      exact partings_dropLink now state
    | false => simp [settle_of_not_shutsDown now teardown]

theorem filterMap_judge {β : Type} {part : Note → Option β} (ofAttempts : Note.OfAttempts part)
    (handler : Handler τ) (raised : Fault) (now : Nat) (state : State τ) :
    (contents (handler.judge raised now state).notes).filterMap part = [] := by
  rw [List.filterMap_eq_nil_iff]
  exact fun note member => ofAttempts.partings note (partings_judge raised now state note member)

/-- A fault that is worth a retry leaves the link as it is, or none if it tears the link down. -/
theorem link_judge {raised fault : Fault} {now : Nat}
    (judged : (handler.judge raised now state).value = .ok fault) :
    (handler.judge raised now state).state.link =
      if (handler.classified raised).shutsDown then none else state.link := by
  rw [judge_of_not_fatal now (eq_of_judge_ok judged).2.2]
  cases teardown : (handler.classified raised).shutsDown with
  | true =>
    rw [settle_of_shutsDown now teardown]
    exact handler.link_dropLink now state
  | false =>
    rw [settle_of_not_shutsDown now teardown]
    rfl

theorem eq_of_obstacle? {second : Int} {fault : Fault}
    (found : obstacle? state second = some fault) :
    fault = .shutDown ∨ ∃ renewal, fault = .lockLost renewal := by
  unfold obstacle? at found
  split at found
  · cases found
    exact .inl rfl
  · split at found
    · cases found
    · split at found
      · cases found
      · cases found
        exact .inr ⟨_, rfl⟩

theorem eq_of_blocked {now : Nat} {fault : Fault}
    (blocked : (handler.ensureUsable now state).value = .error fault) :
    fault = .shutDown ∨ ∃ renewal, fault = .lockLost renewal := by
  rw [ensureUsable_apply] at blocked
  cases found : obstacle? state (handler.outside.wallClock now) with
  | none =>
    rw [found] at blocked
    cases blocked
  | some obstacle =>
    rw [found] at blocked
    cases blocked
    exact eq_of_obstacle? found

/-- What keeps a handler from being used keeps its meaning, and no retry helps. -/
theorem classify_of_blocked {now : Nat} {fault : Fault}
    (blocked : (handler.ensureUsable now state).value = .error fault) (endpoint : Option String) :
    fault.classify endpoint = fault ∧ fault.retryable = false := by
  rcases eq_of_blocked blocked with rfl | ⟨renewal, rfl⟩ <;> exact ⟨rfl, rfl⟩

theorem isAbort_of_blocked {now : Nat} {fault : Fault}
    (blocked : (handler.ensureUsable now state).value = .error fault) : fault.isAbort = false := by
  rcases eq_of_blocked blocked with rfl | ⟨renewal, rfl⟩ <;> rfl

variable {errand : Errand τ α} {timeout : Option Nat} {node : List UInt8}

/-- An errand with all that governs the attempts at it. -/
def errandJob (handler : Handler τ) (errand : Errand τ α) (timeout : Option Nat) :
    Retry.Job (State τ) α :=
  handler.job (.bounded (timeout.filter (· ≠ 0))) fun context =>
    .exchange errand true context.remaining

/-- A retried exchange finds out in its first attempt that the handler cannot be used, and is over
with the judgement of that, if it keeps its meaning. -/
theorem exchangeRetrying_of_blocked {now : Nat} {fault : Fault}
    (blocked : (handler.ensureUsable now state).value = .error fault)
    (kept : handler.classified fault = fault) (errand : Errand τ α) {timeout : Option Nat}
    (inReach : handler.InReach timeout now) :
    ∃ context : Retry.Context, context.attempt = 0 ∧
      let judged := handler.judge fault now state
      handler.exchangeRetrying errand timeout now state =
        ⟨some (.error fault), judged.took,
          ⟨now, .attempt context⟩ :: ⟨now, .judged fault⟩ :: judged.notes, judged.state⟩ := by
  let job := handler.errandJob errand timeout
  have refused (context : Retry.Context) :
      job.attempt context now state = ⟨.error fault, 0, [], state⟩ :=
    exchange_of_blocked blocked errand true context.remaining
  have lasting := (classify_of_blocked blocked none).2
  have verdict : (job.judge fault now state).value = .error fault := by
    show (handler.judge fault now state).value = _
    rw [value_judge, kept, lasting]
    rfl
  have starts : job.starts now = true := starts_bounded_iff.mpr inReach
  exact Retry.Job.run_of_refused starts refused (isAbort_of_blocked blocked) verdict

/-- Only the attempts themselves leave notes of a kind that is neither about rounds nor about what
is given up. -/
theorem attemptsOnly_job {β : Type} {part : Note → Option β} (ofAttempts : Note.OfAttempts part)
    (terms : Retry.Terms) (attempt : Retry.Context → Program τ (Except Fault α)) :
    (handler.job terms attempt).AttemptsOnly part where
  rounds := ofAttempts.rounds
  judges := handler.filterMap_judge ofAttempts

theorem Underway.vacant_iff {now : Nat} {course : Course Note (State τ) (Except Fault α)}
    (underway : handler.Underway now state course) :
    course.state.link = none ↔ ∃ fault, (handler.openLink now state).value = .error fault := by
  cases opened : (handler.openLink now state).value with
  | error fault => simp [(underway.unopened fault opened).2.1]
  | ok _ =>
    obtain ⟨link, _, _, held⟩ := underway.opened opened
    simp [held]

section Rounds

variable {stage : Retry.Stage (State τ)}

/-- An attempt that is followed by another one. -/
structure FollowedUp (handler : Handler τ) (errand : Errand τ α) (timeout : Option Nat)
    (stage : Retry.Stage (State τ)) (raised : Fault) : Prop where
  failed : ((handler.errandJob errand timeout).tried stage).value = .error raised
  usable : (handler.ensureUsable stage.instant stage.state).value = .ok ()
  link : ((handler.errandJob errand timeout).next stage).state.link =
    if (raised.classify handler.configuration.customEndpoint).shutsDown then none
    else ((handler.errandJob errand timeout).tried stage).state.link

theorem attempted_tried (reachable : handler.Reachable stage.state)
    (encoded : handler.configuration.encode handler.managementTarget = .ok node) :
    handler.Attempted stage.instant stage.state
      ((handler.errandJob errand timeout).tried stage) :=
  attempted_exchange reachable.consistent encoded

theorem followedUp_of_goesOn (plain : handler.outside.classify = Fault.classify)
    (reachable : handler.Reachable stage.state)
    (encoded : handler.configuration.encode handler.managementTarget = .ok node)
    (goesOn : ((handler.errandJob errand timeout).ruling stage).ending? = none) :
    ∃ raised, handler.FollowedUp errand timeout stage raised := by
  obtain ⟨raised, fault, ruling⟩ := (Retry.Ruling.ending?_eq_none_iff _).mp goesOn
  obtain ⟨failed, _, judged, _⟩ := Retry.Job.ruling_eq_iff.mp ruling
  obtain ⟨means, retryable, _⟩ := eq_of_judge_ok judged
  rw [classified_of_plain plain] at means
  have attempted : handler.Attempted stage.instant stage.state
      ((handler.errandJob errand timeout).tried stage) := attempted_tried reachable encoded
  refine ⟨raised, failed, ?_, ?_⟩
  · cases usable : (handler.ensureUsable stage.instant stage.state).value with
    | ok _ => rfl
    | error obstacle =>
      -- What keeps the handler from being used would have ended the call.
      rw [attempted.blocked obstacle usable] at failed
      cases failed
      obtain ⟨same, lasting⟩ :=
        classify_of_blocked usable handler.configuration.customEndpoint
      rw [means, same, lasting] at retryable
      cases retryable
  · rw [← classified_of_plain plain]
    simp only [Retry.Job.next, ruling, Retry.Ruling.raised?]
    exact link_judge judged

/-- The next attempt finds no link if this one could not open it, or lost it. -/
theorem FollowedUp.vacant_iff {raised : Fault}
    (followedUp : handler.FollowedUp errand timeout stage raised)
    (attempted : handler.Attempted stage.instant stage.state
      ((handler.errandJob errand timeout).tried stage)) :
    let job := handler.errandJob errand timeout
    (job.next stage).state.link = none ↔
      (∃ fault, (handler.openLink stage.instant stage.state).value = .error fault) ∨
        ∃ raised, (job.tried stage).value = .error raised ∧
          (raised.classify handler.configuration.customEndpoint).shutsDown = true := by
  intro job
  have unopened := (attempted.underway followedUp.usable).vacant_iff
  have failed := followedUp.failed
  rw [followedUp.link]
  cases teardown : (raised.classify handler.configuration.customEndpoint).shutsDown with
  | true => exact ⟨fun _ => .inr ⟨raised, failed, teardown⟩, fun _ => rfl⟩
  | false =>
    refine unopened.trans ⟨.inl, ?_⟩
    rintro (opened | ⟨other, again, tears⟩)
    · exact opened
    · cases failed.symm.trans again
      cases teardown.symm.trans tears

theorem FollowedUp.sent {raised : Fault} {link : Link}
    (followedUp : handler.FollowedUp errand timeout stage raised)
    (attempted : handler.Attempted stage.instant stage.state
      ((handler.errandJob errand timeout).tried stage))
    (held : ((handler.errandJob errand timeout).next stage).state.link = some link) :
    sendings (contents ((handler.errandJob errand timeout).tried stage).notes) = [link] := by
  have underway := attempted.underway followedUp.usable
  have kept : ((handler.errandJob errand timeout).tried stage).state.link = some link := by
    rw [followedUp.link] at held
    split at held
    · cases held
    · exact held
  cases opened : (handler.openLink stage.instant stage.state).value with
  | error fault =>
    have vacant := (underway.unopened fault opened).2.1
    rw [vacant] at kept
    cases kept
  | ok _ =>
    obtain ⟨used, _, sent, still⟩ := underway.opened opened
    rw [still] at kept
    cases kept
    exact sent

end Rounds

/-- All that is to be said of the links of a retried exchange with a certain last attempt. -/
structure ErrandAccount (handler : Handler τ) (errand : Errand τ α) (timeout : Option Nat)
    (node : List UInt8) (start : Nat) (state : State τ) (last : Nat) : Prop where
  account : (handler.errandJob errand timeout).Account start state last
  ended : let job := handler.errandJob errand timeout
    ∃ ending, (job.ruling (job.stageAt start state last)).ending? = some ending ∧
      (handler.exchangeRetrying errand timeout start state).value = ending.result?
  attempted : let job := handler.errandJob errand timeout
    ∀ index ≤ last,
      let stage := job.stageAt start state index
      handler.Attempted stage.instant stage.state (job.tried stage)
  -- An attempt asks for one link at most and sends one request at most, also while its fault is
  -- judged.
  single : let job := handler.errandJob errand timeout
    ∀ index ≤ last,
      let notes := contents (job.roundNotes (job.stageAt start state index))
      (linkRequests notes).length ≤ 1 ∧ (sendings notes).length ≤ 1
  bounded : let notes := contents (handler.exchangeRetrying errand timeout start state).notes
    (linkRequests notes).length ≤ handler.configuration.retries.toNat + 1 ∧
      (sendings notes).length ≤ handler.configuration.retries.toNat + 1
  -- An attempt finds no link exactly if the one before could not open it, or failed with a fault
  -- that tears it down.
  vacant : let job := handler.errandJob errand timeout
    ∀ index < last,
      let stage := job.stageAt start state index
      (job.stageAt start state (index + 1)).state.link = none ↔
        (∃ fault, (handler.openLink stage.instant stage.state).value = .error fault) ∨
          ∃ raised, (job.tried stage).value = .error raised ∧
            (raised.classify handler.configuration.customEndpoint).shutsDown = true
  -- A link that an attempt finds is the one that was used before, and it is used again.
  same : let job := handler.errandJob errand timeout
    ∀ index < last, ∀ link,
      let stage := job.stageAt start state index
      let following := job.stageAt start state (index + 1)
      following.state.link = some link →
        sendings (contents (job.tried stage).notes) = [link] ∧
          ((handler.ensureUsable following.instant following.state).value = .ok () →
            sendings (contents (job.tried following).notes) = [link])
  -- A fault from outside is what the attempt fails with.
  untouched : let job := handler.errandJob errand timeout
    ∀ index ≤ last, ∀ raised,
      let stage := job.stageAt start state index
      (handler.ensureUsable stage.instant stage.state).value = .ok () →
        handler.Raised errand true (job.told stage).remaining node stage.instant stage.state
          raised →
        (job.tried stage).value = .error raised
  -- A signal ends the call at once, and the link stays as the attempt leaves it.
  aborted : let job := handler.errandJob errand timeout
    ∀ index ≤ last, ∀ raised,
      let stage := job.stageAt start state index
      let call := handler.exchangeRetrying errand timeout start state
      (job.tried stage).value = .error raised → raised.isAbort = true →
        index = last ∧ call.value = some (.error raised) ∧
          start + call.took = job.triedAt stage ∧
          call.state.link = (job.tried stage).state.link ∧
          closings (contents (job.roundNotes stage)) = []

/-- A retried exchange opens a link again only after an attempt that could not open one or lost it,
and asks and sends once in each attempt at most. It makes no attempt if its deadline cannot be
told. -/
theorem retried_errand (reachable : handler.Reachable state)
    (plain : handler.outside.classify = Fault.classify)
    (few : handler.configuration.retries.toNat < 2 ^ 32 - 1)
    (encoded : handler.configuration.encode handler.managementTarget = .ok node)
    (errand : Errand τ α) (timeout : Option Nat) (start : Nat) :
    (handler.errandJob errand timeout).Unstarted start state ∨
      ∃ last, handler.ErrandAccount errand timeout node start state last := by
  let job := handler.errandJob errand timeout
  refine (job.run_account start state).imp_right fun ⟨last, account⟩ => ?_
  have within : last ≤ handler.configuration.retries.toNat := account.within
  have requested : job.AttemptsOnly Note.requested? :=
    attemptsOnly_job Note.ofAttempts_requested? _ _
  have sentOver : job.AttemptsOnly Note.sentOver? :=
    attemptsOnly_job Note.ofAttempts_sentOver? _ _
  have found (index : Nat) : handler.Reachable (job.stageAt start state index).state :=
    reachable.stageAt start index
  have attempted (index : Nat) : handler.Attempted (job.stageAt start state index).instant
      (job.stageAt start state index).state (job.tried (job.stageAt start state index)) :=
    attempted_tried (found index) encoded
  have followedUp (index : Nat) (before : index < last) :
      ∃ raised, handler.FollowedUp errand timeout (job.stageAt start state index) raised :=
    followedUp_of_goesOn plain (found index) encoded (account.goesOn index before)
  refine ⟨last, account, ?_, ?_, ?_, ?_, ?_, ?_, ?_, ?_⟩
  · obtain ⟨ending, ends⟩ := account.over few
    refine ⟨ending, ends, account.value.trans ?_⟩
    rw [ends, Option.bind_some]
  · intro job index _
    exact attempted index
  · intro job index _ notes
    have asked : linkRequests notes =
        linkRequests (contents (job.tried (job.stageAt start state index)).notes) :=
      requested.roundNotes _
    have sent : sendings notes =
        sendings (contents (job.tried (job.stageAt start state index)).notes) :=
      sentOver.roundNotes _
    rw [asked, sent]
    exact (attempted index).single
  · intro notes
    have asked := requested.length_run_le account fun index _ => (attempted index).single.1
    have sent := sentOver.length_run_le account fun index _ => (attempted index).single.2
    have counted : last + 1 ≤ handler.configuration.retries.toNat + 1 := Nat.succ_le_succ within
    exact ⟨Nat.le_trans asked counted, Nat.le_trans sent counted⟩
  · intro job index before stage
    obtain ⟨raised, followed⟩ := followedUp index before
    exact followed.vacant_iff (attempted index)
  · intro job index before link stage following held
    obtain ⟨raised, followed⟩ := followedUp index before
    refine ⟨followed.sent (attempted index) held, ?_⟩
    intro usable
    exact (((attempted (index + 1)).underway usable).reused link held).2
  · intro job index _ raised stage usable came
    exact value_of_raised usable encoded came
  · intro job index reached raised stage call failed signal
    obtain ⟨final, value, ended, left, notes⟩ := account.aborted reached failed signal
    refine ⟨final, value, ended, congrArg State.link left, ?_⟩
    rw [notes]
    exact (attempted index).unclosed

/-- Asks for the status of an answer. -/
def peek : Errand Rehearsal Nat where
  operation := "peek"
  message := { body := .null }
  receive := Rehearsal.receive none Response.status

def losesOnce : State Rehearsal :=
  initial none { replies := [⟨⟨.error (.connection "gone" none), none⟩, 1⟩] }

theorem errand_losesOnce :
    triesTwice.Reachable losesOnce ∧ triesTwice.outside.classify = Fault.classify ∧
      triesTwice.configuration.retries.toNat < 2 ^ 32 - 1 ∧
      triesTwice.configuration.encode triesTwice.managementTarget =
        .ok (Text.bytes triesTwice.managementTarget) ∧
      (triesTwice.exchangeRetrying peek none 0 losesOnce).value = some (.ok 200) ∧
      sendings (contents (triesTwice.exchangeRetrying peek none 0 losesOnce).notes) =
        [⟨0, none⟩, ⟨1, none⟩] ∧
      ∃ last, triesTwice.ErrandAccount peek none (Text.bytes triesTwice.managementTarget) 0
        losesOnce last := by
  have reachable : triesTwice.Reachable losesOnce := .initial none _
  have few : triesTwice.configuration.retries.toNat < 2 ^ 32 - 1 := by decide
  have account := retried_errand reachable rfl few rfl peek none 0
  exact ⟨reachable, rfl, few, rfl, rfl, rfl,
    account.resolve_left (Retry.Job.not_unstarted rfl)⟩

end Handler
end BusLink
