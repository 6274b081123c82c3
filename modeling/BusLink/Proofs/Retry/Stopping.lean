import BusLink.Proofs.Retry.Rounds
import BusLink.Rehearsal

set_option autoImplicit false

namespace BusLink.Retry.Job

variable {σ α : Type} (job : Job σ α) (stage : Stage σ)

/-- The wait after a round may be waited: it is not longer than the longest one, and it is over by
the deadline if there is one. -/
def Allowed (raised : Fault) : Prop :=
  (job.policy.backoff stage.retry).le job.policy.longest = true ∧
    ∀ limit, stage.deadline = some limit →
      job.judgedAt stage raised + job.policy.delay stage.retry ≤ limit

/-- There is a deadline to keep to, but the end of the wait after a round cannot be told. -/
def Overflows (raised : Fault) : Prop :=
  (∃ limit, stage.deadline = some limit) ∧
    job.clock.latest < job.judgedAt stage raised + job.policy.delay stage.retry

/-- A round that is followed by another one. -/
structure GoesOn (raised fault : Fault) : Prop where
  failed : (job.tried stage).value = .error raised
  noSignal : raised.isAbort = false
  judged : (job.judgement stage raised).value = .ok fault
  retryLeft : stage.index ≠ job.policy.retries.toNat
  tellable : ¬ job.Overflows stage raised
  allowed : job.Allowed stage raised
  notes : job.roundNotes stage = job.judgedNotes stage raised ++
    [⟨job.judgedAt stage raised,
      .event (.retrying job.entity stage.retry (job.policy.delay stage.retry) fault)⟩]
  next : job.next stage =
    ⟨stage.index + 1, stage.deadline,
      job.clock.wake (job.judgedAt stage raised) (job.policy.delay stage.retry),
      (job.judgement stage raised).state, some fault⟩

/-- A round that stops the run, with the end of the run and what the round leaves. -/
inductive Stops : Ending α → List (Stamped Note) → Prop where
  | success (value : α) (done : (job.tried stage).value = .ok value) :
      Stops (.result (.ok value)) (job.attemptNotes stage)
  | abort (raised : Fault) (failed : (job.tried stage).value = .error raised)
      (signal : raised.isAbort = true) : Stops (.result (.error raised)) (job.attemptNotes stage)
  | verdict (raised fault : Fault) (failed : (job.tried stage).value = .error raised)
      (noSignal : raised.isAbort = false)
      (judged : (job.judgement stage raised).value = .error fault) :
      Stops (.result (.error fault)) (job.judgedNotes stage raised)
  | exhausted (raised fault : Fault) (failed : (job.tried stage).value = .error raised)
      (noSignal : raised.isAbort = false) (judged : (job.judgement stage raised).value = .ok fault)
      (spent : stage.index = job.policy.retries.toNat) :
      Stops
        (.result (.error
          (if fault.isTimeout then .operationTimeout Fault.remediation (some fault) else fault)))
        (job.judgedNotes stage raised ++
          [⟨job.judgedAt stage raised, .event (.retryExhausted job.entity stage.retry fault)⟩])
  | timedOut (raised fault : Fault) (failed : (job.tried stage).value = .error raised)
      (noSignal : raised.isAbort = false) (judged : (job.judgement stage raised).value = .ok fault)
      (retryLeft : stage.index ≠ job.policy.retries.toNat)
      (tellable : ¬ job.Overflows stage raised) (refused : ¬ job.Allowed stage raised) :
      Stops
        (.result (.error
          (if fault.isTimeout then .operationTimeout Fault.remediation (some fault) else fault)))
        (job.judgedNotes stage raised ++
          [⟨job.judgedAt stage raised, .event (.retryTimedOut job.entity fault)⟩])
  | brokenOff (raised fault : Fault) (failed : (job.tried stage).value = .error raised)
      (noSignal : raised.isAbort = false) (judged : (job.judgement stage raised).value = .ok fault)
      (retryLeft : stage.index ≠ job.policy.retries.toNat) (beyond : job.Overflows stage raised) :
      Stops .brokenOff (job.judgedNotes stage raised)

variable {job stage}

theorem mayWait_iff_allowed {raised : Fault} :
    job.mayWait stage.deadline stage.retry (job.judgedAt stage raised) = true ↔
      job.Allowed stage raised := by
  rw [mayWait, Bool.and_eq_true, Option.all_eq_true_iff_get, Allowed, Policy.admits]
  refine and_congr_right fun _ => ?_
  cases stage.deadline <;> simp

theorem overflows_iff {raised : Fault} :
    job.overflows stage.deadline stage.retry (job.judgedAt stage raised) = true ↔
      job.Overflows stage raised := by
  rw [overflows, Bool.and_eq_true, Option.isSome_iff_exists, Overflows, Clock.tells,
    Bool.not_eq_true', decide_eq_false_iff_not, Nat.not_le]

theorem not_overflows_iff {raised : Fault} :
    job.overflows stage.deadline stage.retry (job.judgedAt stage raised) = false ↔
      ¬ job.Overflows stage raised := by
  rw [← overflows_iff, Bool.not_eq_true]

theorem goesOn_of_ruling {raised fault : Fault} (ruling : job.ruling stage = .goesOn raised fault)
    (within : stage.index ≤ job.policy.retries.toNat) (bounded : stage.index + 1 < 2 ^ 32) :
    job.GoesOn stage raised fault := by
  obtain ⟨failed, noSignal, judged, left, tellable, allowed⟩ := ruling_eq_iff.mp ruling
  refine ⟨failed, noSignal, judged, ?_, not_overflows_iff.mp tellable,
    mayWait_iff_allowed.mp allowed, ?_, ?_⟩
  · exact fun spent => left ((job.retries_lt_retry_iff stage within bounded).mpr spent)
  · simp only [roundNotes, report?, ruling, Ruling.raised?, Option.toList_some, List.map_cons,
      List.map_nil]
  · simp only [Job.next, ruling, Ruling.raised?]

theorem stops_of_ruling {ending : Ending α} (ends : (job.ruling stage).ending? = some ending)
    (within : stage.index ≤ job.policy.retries.toNat) (bounded : stage.index + 1 < 2 ^ 32) :
    job.Stops stage ending (job.roundNotes stage) := by
  have counted := job.retries_lt_retry_iff stage within bounded
  have rules := job.ruling_rules stage
  cases ruling : job.ruling stage with
  | success value =>
    rw [ruling] at ends rules
    cases ends
    simpa only [roundNotes, ruling, Ruling.raised?] using Stops.success value rules
  | abort raised =>
    rw [ruling] at ends rules
    cases ends
    simpa only [roundNotes, ruling, Ruling.raised?] using Stops.abort raised rules.1 rules.2
  | verdict raised fault =>
    rw [ruling] at ends rules
    cases ends
    obtain ⟨failed, noSignal, judged⟩ := rules
    simpa only [roundNotes, report?, ruling, Ruling.raised?, Option.toList_none, List.map_nil,
      List.append_nil] using Stops.verdict raised fault failed noSignal judged
  | exhausted raised fault =>
    rw [ruling] at ends rules
    cases ends
    obtain ⟨failed, noSignal, judged, spent⟩ := rules
    simpa only [roundNotes, report?, ruling, Ruling.raised?, Fault.terminal, Fault.withRemediation,
      Option.toList_some, List.map_cons, List.map_nil] using
      Stops.exhausted raised fault failed noSignal judged (counted.mp spent)
  | timedOut raised fault =>
    rw [ruling] at ends rules
    cases ends
    obtain ⟨failed, noSignal, judged, left, tellable, refused⟩ := rules
    have refused : ¬ job.Allowed stage raised := fun allowed => by
      rw [mayWait_iff_allowed.mpr allowed] at refused
      cases refused
    simpa only [roundNotes, report?, ruling, Ruling.raised?, Fault.terminal, Fault.withRemediation,
      Option.toList_some, List.map_cons, List.map_nil] using
      Stops.timedOut raised fault failed noSignal judged (fun spent => left (counted.mpr spent))
        (not_overflows_iff.mp tellable) refused
  | brokenOff raised fault =>
    rw [ruling] at ends rules
    cases ends
    obtain ⟨failed, noSignal, judged, left, beyond⟩ := rules
    simpa only [roundNotes, report?, ruling, Ruling.raised?, Option.toList_none, List.map_nil,
      List.append_nil] using Stops.brokenOff raised fault failed noSignal judged
        (fun spent => left (counted.mpr spent)) (overflows_iff.mp beyond)
  | goesOn raised fault =>
    rw [ruling] at ends
    cases ends

/-- A run that stops with a certain round, in a certain way, and with what the round leaves. -/
structure Stopped (job : Job σ α) (start : Nat) (state : σ) (last : Nat) (ending : Ending α)
    (rest : List (Stamped Note)) : Prop where
  starts : ∀ limit, job.terms.deadline? start = some limit → limit ≤ job.clock.latest
  within : last ≤ job.policy.retries.toNat
  goesOn : ∀ index < last, ∃ raised fault,
    job.GoesOn (job.stageAt start state index) raised fault ∧
      (job.told (job.stageAt start state (index + 1))).lastFault =
        if job.terms.recallsFault then some fault else none
  stops : job.Stops (job.stageAt start state last) ending rest
  value : (job.run start state).value = ending.result?
  notes : (job.run start state).notes =
    ((List.range last).flatMap fun index => job.roundNotes (job.stageAt start state index)) ++ rest
  numbered : ∀ index ≤ last, (job.told (job.stageAt start state index)).attempt.toNat = index
  counted : ∀ index ≤ last, (job.stageAt start state index).retry.toNat = index + 1
  remaining : ∀ index ≤ last, (job.told (job.stageAt start state index)).remaining =
    (job.terms.deadline? start).map (· - (job.stageAt start state index).instant)
  fresh : (job.told (job.stageAt start state 0)).lastFault = none

/-- A run whose deadline can be told makes attempts with the numbers 0, 1, 2, … and stops with the
first round that does not go on: with a success, a signal of the caller, a verdict, the last retry
spent, or a wait that is refused. It breaks off where a wait cannot be compared with the deadline,
and before its first attempt if the deadline itself cannot be told. -/
theorem run_stopped (job : Job σ α) (few : job.policy.retries.toNat < 2 ^ 32 - 1) (start : Nat)
    (state : σ) :
    job.Unstarted start state ∨ ∃ last ending rest, job.Stopped start state last ending rest := by
  refine (job.run_account start state).imp_right fun ⟨last, account⟩ => ?_
  have within := account.within
  -- No number of a round that is reached runs over.
  have bounded (index : Nat) (before : index ≤ last) :
      (job.stageAt start state index).index ≤ job.policy.retries.toNat ∧
        (job.stageAt start state index).index + 1 < 2 ^ 32 := by
    rw [index_stageAt]
    omega
  obtain ⟨ending, ends⟩ := account.over few
  refine ⟨last, ending, job.roundNotes (job.stageAt start state last), ?_⟩
  constructor
  · exact starts_iff.mp account.starts
  · exact within
  · intro index before
    obtain ⟨raised, fault, ruling⟩ :=
      (Ruling.ending?_eq_none_iff _).mp (account.goesOn index before)
    have bounds := bounded index (Nat.le_of_lt before)
    have goesOn := goesOn_of_ruling ruling bounds.1 bounds.2
    refine ⟨raised, fault, goesOn, ?_⟩
    simp only [told, context, stageAt_succ, goesOn.next]
  · have bounds := bounded last (Nat.le_refl _)
    exact stops_of_ruling ends bounds.1 bounds.2
  · rw [account.value, ends, Option.bind_some]
  · rw [account.notes, List.range_succ, List.flatMap_append, List.flatMap_singleton]
  · intro index before
    have bounds := bounded index before
    rw [index_stageAt] at bounds
    have small : index < 2 ^ 32 := by omega
    simp only [told, context, index_stageAt]
    exact UInt32.toNat_ofNat_of_lt' small
  · intro index before
    have bounds := bounded index before
    rw [Stage.retry, UInt32.toNat_ofNat_of_lt' bounds.2, index_stageAt]
  · intro index _
    simp only [told, context, deadline_stageAt]
  · simp [told, context, stageAt]

def twoTimeouts : Job Rehearsal Json :=
  rehearsal ⟨1, .fixed, .zero, .zero⟩ "orders" .byFlag { recallsFault := true }

def slowTwice : Rehearsal :=
  { turns := [⟨⟨[], 5000000, .error (.operationTimeout "slow" none)⟩, 2⟩] }

theorem twoTimeouts_stopped :
    twoTimeouts.policy.retries.toNat < 2 ^ 32 - 1 ∧
      (twoTimeouts.run 0 slowTwice).value =
        some (.error (.operationTimeout Fault.remediation (some (.operationTimeout "slow" none)))) ∧
      ∃ last ending rest, twoTimeouts.Stopped 0 slowTwice last ending rest := by
  have stopped := run_stopped twoTimeouts (by decide) 0 slowTwice
  exact ⟨by decide, rfl, stopped.resolve_left (not_unstarted rfl)⟩

/-- One retry after ten million million million seconds, and one second for all attempts. -/
def overstretched : Job Rehearsal Json :=
  let wait := .finite false (Nat.pow 10 19 * Binary64.one)
  rehearsal ⟨1, .fixed, wait, wait⟩ "orders" .always (.bounded (some 1000000000))

def busyOnce : Rehearsal :=
  { turns := [⟨⟨[], 0, .error (.serverBusy "busy")⟩, 1⟩] }

/-- The only attempt fails with a fault that is worth a retry, and the wait would be over long after
the deadline. The run reports nothing and comes to no result. -/
theorem overstretched_brokenOff :
    let stage := overstretched.stageAt 0 busyOnce 0
    overstretched.policy.retries.toNat < 2 ^ 32 - 1 ∧
      (overstretched.tried stage).value = .error (.serverBusy "busy") ∧
      (overstretched.judgement stage (.serverBusy "busy")).value = .ok (.serverBusy "busy") ∧
      stage.index ≠ overstretched.policy.retries.toNat ∧
      ¬ overstretched.Allowed stage (.serverBusy "busy") ∧
      eventsOf (overstretched.run 0 busyOnce).notes = [] ∧
      (overstretched.run 0 busyOnce).value = none := by
  refine ⟨by decide, rfl, rfl, by decide, ?_, by decide +kernel, ?_⟩
  · rintro ⟨_, fits⟩
    exact absurd (fits 1000000000 rfl) (by decide +kernel)
  · have some : (overstretched.run 0 busyOnce).value.isNone = true := by decide +kernel
    exact Option.isNone_iff_eq_none.mp some

end BusLink.Retry.Job
