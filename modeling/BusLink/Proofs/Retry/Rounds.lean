import BusLink.Retry.Run
import Mathlib.Algebra.Group.Nat.Defs

set_option autoImplicit false

namespace BusLink.Retry

/-- Where a run stands when a round starts. -/
structure Stage (σ : Type) where
  index : Nat
  deadline : Option Nat
  instant : Nat
  state : σ
  last : Option Fault

def Stage.retry {σ : Type} (stage : Stage σ) : UInt32 := .ofNat (stage.index + 1)

/-- What a round comes to. The fault that the attempt raised stands before the judged one. -/
inductive Ruling (α : Type) where
  | success (value : α)
  | abort (raised : Fault)
  | verdict (raised fault : Fault)
  | exhausted (raised fault : Fault)
  | timedOut (raised fault : Fault)
  -- The end of the wait before the next round cannot be told.
  | brokenOff (raised fault : Fault)
  | goesOn (raised fault : Fault)

namespace Ruling

variable {α : Type}

def ending? : Ruling α → Option (Ending α)
  | .success value => some (.result (.ok value))
  | .abort fault | .verdict _ fault => some (.result (.error fault))
  | .exhausted _ fault | .timedOut _ fault => some (.result (.error fault.terminal))
  | .brokenOff .. => some .brokenOff
  | .goesOn .. => none

def raised? : Ruling α → Option Fault
  | .success _ | .abort _ => none
  | .verdict raised _ | .exhausted raised _ | .timedOut raised _ | .brokenOff raised _
  | .goesOn raised _ => some raised

theorem ending?_eq_none_iff (ruling : Ruling α) :
    ruling.ending? = none ↔ ∃ raised fault, ruling = .goesOn raised fault := by
  cases ruling <;> simp [ending?]

theorem ending?_eq_brokenOff_iff (ruling : Ruling α) :
    ruling.ending? = some .brokenOff ↔ ∃ raised fault, ruling = .brokenOff raised fault := by
  cases ruling <;> simp [ending?]

end Ruling

theorem Ending.bind_result?_eq_some_iff {α : Type} {ending : Option (Ending α)}
    {result : Except Fault α} :
    ending.bind Ending.result? = some result ↔ ending = some (.result result) := by
  cases ending with
  | none => simp
  | some ending => cases ending <;> simp [Ending.result?]

namespace Job

variable {σ α : Type} (job : Job σ α) (stage : Stage σ)

def told : Context :=
  job.context stage.deadline (.ofNat stage.index) stage.last stage.instant

def tried : Course Note σ (Except Fault α) :=
  job.attempt (job.told stage) stage.instant stage.state

def triedAt : Nat := stage.instant + (job.tried stage).took

def judgement (raised : Fault) : Course Note σ (Except Fault Fault) :=
  job.judge raised (job.triedAt stage) (job.tried stage).state

def judgedAt (raised : Fault) : Nat := job.triedAt stage + (job.judgement stage raised).took

/-- What a round comes to, in the order of the checks. -/
def ruling : Ruling α :=
  match (job.tried stage).value with
  | .ok value => .success value
  | .error raised =>
    if raised.isAbort then .abort raised
    else match (job.judgement stage raised).value with
      | .error fault => .verdict raised fault
      | .ok fault =>
        if job.policy.retries < stage.retry then .exhausted raised fault
        else if job.overflows stage.deadline stage.retry (job.judgedAt stage raised) then
          .brokenOff raised fault
        else if job.mayWait stage.deadline stage.retry (job.judgedAt stage raised) then
          .goesOn raised fault
        else .timedOut raised fault

def report? : Option Event :=
  match job.ruling stage with
  | .success _ | .abort _ | .verdict .. | .brokenOff .. => none
  | .exhausted _ fault => some (.retryExhausted job.entity stage.retry fault)
  | .timedOut _ fault => some (.retryTimedOut job.entity fault)
  | .goesOn _ fault =>
    some (.retrying job.entity stage.retry (job.policy.delay stage.retry) fault)

/-- What a round leaves until its attempt is over. -/
def attemptNotes : List (Stamped Note) :=
  ⟨stage.instant, .attempt (job.told stage)⟩ :: (job.tried stage).notes

def judgedNotes (raised : Fault) : List (Stamped Note) :=
  job.attemptNotes stage ++
    ⟨job.triedAt stage, .judged raised⟩ :: (job.judgement stage raised).notes

def roundNotes : List (Stamped Note) :=
  match (job.ruling stage).raised? with
  | none => job.attemptNotes stage
  | some raised =>
    job.judgedNotes stage raised ++
      (job.report? stage).toList.map (⟨job.judgedAt stage raised, .event ·⟩)

def next : Stage σ where
  index := stage.index + 1
  deadline := stage.deadline
  instant :=
    match job.ruling stage with
    | .success _ | .abort _ => job.triedAt stage
    | .verdict raised _ | .exhausted raised _ | .timedOut raised _ | .brokenOff raised _ =>
      job.judgedAt stage raised
    | .goesOn raised _ =>
      job.clock.wake (job.judgedAt stage raised) (job.policy.delay stage.retry)
  state :=
    match (job.ruling stage).raised? with
    | none => (job.tried stage).state
    | some raised => (job.judgement stage raised).state
  last :=
    match job.ruling stage with
    | .goesOn _ fault => some fault
    | _ => none

end Job

variable {σ α : Type}

def Job.later (job : Job σ α) (stage : Stage σ) : Nat → Stage σ
  | 0 => stage
  | count + 1 => job.next (job.later stage count)

/-- The stage at which a round of a run starts. -/
def Job.stageAt (job : Job σ α) (start : Nat) (state : σ) (index : Nat) : Stage σ :=
  job.later ⟨0, job.terms.deadline? start, start, state, none⟩ index

namespace Job

section Stages

variable (job : Job σ α) (stage : Stage σ)

@[simp] theorem later_zero : job.later stage 0 = stage := rfl

theorem later_succ (count : Nat) : job.later stage (count + 1) = job.next (job.later stage count) :=
  rfl

theorem later_next (count : Nat) :
    job.later (job.next stage) count = job.later stage (count + 1) := by
  induction count with
  | zero => rfl
  | succ count ih => rw [later_succ, ih, ← later_succ]

@[simp] theorem index_next : (job.next stage).index = stage.index + 1 := rfl

@[simp] theorem deadline_next : (job.next stage).deadline = stage.deadline := rfl

@[simp] theorem index_later (count : Nat) :
    (job.later stage count).index = stage.index + count := by
  induction count with
  | zero => rfl
  | succ count ih => rw [later_succ, index_next, ih, Nat.add_assoc]

@[simp] theorem deadline_later (count : Nat) :
    (job.later stage count).deadline = stage.deadline := by
  induction count with
  | zero => rfl
  | succ count ih => rw [later_succ, deadline_next, ih]

@[simp] theorem index_stageAt (start : Nat) (state : σ) (index : Nat) :
    (job.stageAt start state index).index = index := by
  rw [stageAt, index_later, Nat.zero_add]

@[simp] theorem deadline_stageAt (start : Nat) (state : σ) (index : Nat) :
    (job.stageAt start state index).deadline = job.terms.deadline? start :=
  job.deadline_later _ index

theorem stageAt_succ (start : Nat) (state : σ) (index : Nat) :
    job.stageAt start state (index + 1) = job.next (job.stageAt start state index) := rfl

end Stages

variable {σ α : Type}

def Rules (job : Job σ α) (stage : Stage σ) : Ruling α → Prop
  | .success value => (job.tried stage).value = .ok value
  | .abort raised => (job.tried stage).value = .error raised ∧ raised.isAbort = true
  | .verdict raised fault =>
    (job.tried stage).value = .error raised ∧ raised.isAbort = false ∧
      (job.judgement stage raised).value = .error fault
  | .exhausted raised fault =>
    (job.tried stage).value = .error raised ∧ raised.isAbort = false ∧
      (job.judgement stage raised).value = .ok fault ∧ job.policy.retries < stage.retry
  | .timedOut raised fault =>
    (job.tried stage).value = .error raised ∧ raised.isAbort = false ∧
      (job.judgement stage raised).value = .ok fault ∧ ¬ job.policy.retries < stage.retry ∧
      job.overflows stage.deadline stage.retry (job.judgedAt stage raised) = false ∧
      job.mayWait stage.deadline stage.retry (job.judgedAt stage raised) = false
  | .brokenOff raised fault =>
    (job.tried stage).value = .error raised ∧ raised.isAbort = false ∧
      (job.judgement stage raised).value = .ok fault ∧ ¬ job.policy.retries < stage.retry ∧
      job.overflows stage.deadline stage.retry (job.judgedAt stage raised) = true
  | .goesOn raised fault =>
    (job.tried stage).value = .error raised ∧ raised.isAbort = false ∧
      (job.judgement stage raised).value = .ok fault ∧ ¬ job.policy.retries < stage.retry ∧
      job.overflows stage.deadline stage.retry (job.judgedAt stage raised) = false ∧
      job.mayWait stage.deadline stage.retry (job.judgedAt stage raised) = true

theorem ruling_rules (job : Job σ α) (stage : Stage σ) : job.Rules stage (job.ruling stage) := by
  unfold ruling
  cases outcome : (job.tried stage).value with
  | ok value => exact outcome
  | error raised =>
    by_cases signal : raised.isAbort
    · simpa only [signal, if_true] using ⟨outcome, signal⟩
    · simp only [signal, Bool.false_eq_true, if_false]
      cases verdict : (job.judgement stage raised).value with
      | error fault => exact ⟨outcome, by simpa using signal, verdict⟩
      | ok fault =>
        dsimp only
        split
        · rename_i spent
          exact ⟨outcome, by simpa using signal, verdict, spent⟩
        · rename_i left
          split
          · rename_i beyond
            exact ⟨outcome, by simpa using signal, verdict, left, beyond⟩
          · rename_i told
            have told := by simpa only [Bool.not_eq_true] using told
            split
            · rename_i allowed
              exact ⟨outcome, by simpa using signal, verdict, left, told, allowed⟩
            · rename_i refused
              exact ⟨outcome, by simpa using signal, verdict, left, told, by simpa using refused⟩

theorem ruling_eq_of_rules {job : Job σ α} {stage : Stage σ} {ruling : Ruling α}
    (rules : job.Rules stage ruling) : job.ruling stage = ruling := by
  unfold Job.ruling
  cases ruling with
  | success value => simp only [show (job.tried stage).value = .ok value from rules]
  | abort raised =>
    obtain ⟨outcome, signal⟩ := rules
    simp only [outcome, signal, if_true]
  | verdict raised fault =>
    obtain ⟨outcome, noSignal, verdict⟩ := rules
    simp [outcome, noSignal, verdict]
  | exhausted raised fault =>
    obtain ⟨outcome, noSignal, verdict, spent⟩ := rules
    simp [outcome, noSignal, verdict, spent]
  | timedOut raised fault =>
    obtain ⟨outcome, noSignal, verdict, left, told, refused⟩ := rules
    simp [outcome, noSignal, verdict, left, told, refused]
  | brokenOff raised fault =>
    obtain ⟨outcome, noSignal, verdict, left, beyond⟩ := rules
    simp [outcome, noSignal, verdict, left, beyond]
  | goesOn raised fault =>
    obtain ⟨outcome, noSignal, verdict, left, told, allowed⟩ := rules
    simp [outcome, noSignal, verdict, left, told, allowed]

/-- A ruling holds of a round exactly if all that it says does. -/
theorem ruling_eq_iff {job : Job σ α} {stage : Stage σ} {ruling : Ruling α} :
    job.ruling stage = ruling ↔ job.Rules stage ruling :=
  ⟨fun same => same ▸ job.ruling_rules stage, ruling_eq_of_rules⟩

theorem raised?_ruling_eq_some_iff {job : Job σ α} {stage : Stage σ} {raised : Fault} :
    (job.ruling stage).raised? = some raised ↔
      (job.tried stage).value = .error raised ∧ raised.isAbort = false := by
  have rules := job.ruling_rules stage
  cases ruling : job.ruling stage with
  | success value =>
    rw [ruling] at rules
    simp [Ruling.raised?, show (job.tried stage).value = .ok value from rules]
  | abort signal =>
    rw [ruling] at rules
    simp only [Ruling.raised?, rules.1, Except.error.injEq, reduceCtorEq, false_iff, not_and]
    rintro rfl
    simp [rules.2]
  | verdict judged fault | exhausted judged fault | timedOut judged fault | brokenOff judged fault
  | goesOn judged fault =>
    rw [ruling] at rules
    simp only [Ruling.raised?, rules.1, Option.some.injEq, Except.error.injEq]
    exact ⟨fun same => ⟨same, same ▸ rules.2.1⟩, And.left⟩

theorem next_of_unjudged {job : Job σ α} {stage : Stage σ}
    (unjudged : (job.ruling stage).raised? = none) :
    (job.next stage).state = (job.tried stage).state ∧
      (job.next stage).instant = job.triedAt stage ∧
      job.roundNotes stage = job.attemptNotes stage := by
  cases ruling : job.ruling stage with
  | success value | abort raised =>
    simp only [next, roundNotes, ruling, Ruling.raised?, and_self]
  | verdict raised fault | exhausted raised fault | timedOut raised fault | brokenOff raised fault
  | goesOn raised fault =>
    rw [ruling] at unjudged
    cases unjudged

theorem next_of_verdict {job : Job σ α} {stage : Stage σ} {raised fault : Fault}
    (ruling : job.ruling stage = .verdict raised fault) :
    (job.next stage).state = (job.judgement stage raised).state ∧
      job.roundNotes stage = job.judgedNotes stage raised := by
  simp only [next, roundNotes, report?, ruling, Ruling.raised?, Option.toList_none, List.map_nil,
    List.append_nil, and_self]

theorem settle_apply (job : Job σ α) (deadline : Option Nat) (retry : UInt32) (fault : Fault)
    (now : Nat) (state : σ) :
    job.settle deadline retry fault now state =
      if job.policy.retries < retry then
        ⟨some (.result (.error fault.terminal)), 0,
          [⟨now, .event (.retryExhausted job.entity retry fault)⟩], state⟩
      else if job.overflows deadline retry now then ⟨some .brokenOff, 0, [], state⟩
      else if job.mayWait deadline retry now then
        ⟨none, job.clock.wake now (job.policy.delay retry) - now,
          [⟨now, .event (.retrying job.entity retry (job.policy.delay retry) fault)⟩], state⟩
      else
        ⟨some (.result (.error fault.terminal)), 0,
          [⟨now, .event (.retryTimedOut job.entity fault)⟩], state⟩ := by
  by_cases spent : job.policy.retries < retry
  · simp [settle, spent, Course.after]
  · by_cases beyond : job.overflows deadline retry now
    · simp [settle, spent, beyond, Course.after]
    · by_cases allowed : job.mayWait deadline retry now <;>
        simp [settle, spent, beyond, allowed, Course.after]

theorem rounds_succ (job : Job σ α) (stage : Stage σ) (left : Nat) :
    job.rounds stage.deadline (left + 1) (.ofNat stage.index) stage.last stage.instant stage.state =
      match (job.ruling stage).ending? with
      | some ending =>
        ⟨some ending, (job.next stage).instant - stage.instant, job.roundNotes stage,
          (job.next stage).state⟩
      | none =>
        (job.rounds stage.deadline left stage.retry (job.next stage).last (job.next stage).instant
          (job.next stage).state).after
          ⟨(), (job.next stage).instant - stage.instant, job.roundNotes stage,
            (job.next stage).state⟩ := by
  have told : job.context stage.deadline (.ofNat stage.index) stage.last stage.instant =
      job.told stage := rfl
  have tried : job.attempt (job.told stage) stage.instant stage.state = job.tried stage := rfl
  have ended : stage.instant + (job.tried stage).took = job.triedAt stage := rfl
  have counted : UInt32.ofNat stage.index + 1 = stage.retry := by
    simp only [Stage.retry, UInt32.ofNat_add, UInt32.reduceOfNat]
  have judged (raised : Fault) : job.judge raised (job.triedAt stage) (job.tried stage).state =
      job.judgement stage raised := rfl
  have decided (raised : Fault) : job.triedAt stage + (job.judgement stage raised).took =
      job.judgedAt stage raised := rfl
  have between (raised : Fault) : job.judgedAt stage raised - stage.instant =
      (job.tried stage).took + (job.judgement stage raised).took := by
    simp only [judgedAt, triedAt]
    omega
  -- The terms of the run are named first: once a value is known, they would not be found any more.
  simp only [rounds, Activity.bind_apply, Activity.now_apply, Activity.note_apply, Nat.add_zero,
    told, tried, ended, counted]
  cases ruling : job.ruling stage with
  | success value =>
    have outcome : (job.tried stage).value = .ok value := ruling_eq_iff.mp ruling
    simp [ruling, outcome, Ruling.ending?, Ruling.raised?, roundNotes, attemptNotes, next, triedAt,
      Course.after]
  | abort raised =>
    obtain ⟨outcome, signal⟩ := ruling_eq_iff.mp ruling
    simp [ruling, outcome, signal, Ruling.ending?, Ruling.raised?, roundNotes, attemptNotes, next,
      triedAt, Course.after]
  | verdict raised fault =>
    obtain ⟨outcome, noSignal, verdict⟩ := ruling_eq_iff.mp ruling
    simp [ruling, outcome, noSignal, judged, verdict, between, Ruling.ending?, Ruling.raised?,
      roundNotes, judgedNotes, attemptNotes, report?, next, Course.after]
  | exhausted raised fault =>
    obtain ⟨outcome, noSignal, verdict, spent⟩ := ruling_eq_iff.mp ruling
    simp [ruling, outcome, noSignal, judged, verdict, decided, settle_apply, spent, between,
      Ruling.ending?, Ruling.raised?, roundNotes, judgedNotes, attemptNotes, report?, next,
      Course.after]
  | timedOut raised fault =>
    obtain ⟨outcome, noSignal, verdict, left, tellable, refused⟩ := ruling_eq_iff.mp ruling
    simp [ruling, outcome, noSignal, judged, verdict, decided, settle_apply, left, tellable,
      refused, between, Ruling.ending?, Ruling.raised?, roundNotes, judgedNotes, attemptNotes,
      report?, next, Course.after]
  | brokenOff raised fault =>
    obtain ⟨outcome, noSignal, verdict, left, beyond⟩ := ruling_eq_iff.mp ruling
    simp [ruling, outcome, noSignal, judged, verdict, decided, settle_apply, left, beyond, between,
      Ruling.ending?, Ruling.raised?, roundNotes, judgedNotes, attemptNotes, report?, next,
      Course.after]
  | goesOn raised fault =>
    obtain ⟨outcome, noSignal, verdict, left, tellable, allowed⟩ := ruling_eq_iff.mp ruling
    have reached := decided raised
    have ahead := job.clock.now_le_wake (job.judgedAt stage raised) (job.policy.delay stage.retry)
    have resumed : job.judgedAt stage raised + (job.clock.wake (job.judgedAt stage raised)
        (job.policy.delay stage.retry) - job.judgedAt stage raised) =
          job.clock.wake (job.judgedAt stage raised) (job.policy.delay stage.retry) := by
      omega
    simp [ruling, outcome, noSignal, judged, verdict, decided, settle_apply, left, tellable,
      allowed, resumed, Ruling.ending?, Ruling.raised?, roundNotes, judgedNotes, attemptNotes,
      report?, next, Course.after]
    omega

theorem le_next (job : Job σ α) (stage : Stage σ) : stage.instant ≤ (job.next stage).instant := by
  have attempt : stage.instant ≤ job.triedAt stage := Nat.le_add_right _ _
  have judgement (raised : Fault) : job.triedAt stage ≤ job.judgedAt stage raised :=
    Nat.le_add_right _ _
  cases ruling : job.ruling stage with
  | success value => simpa only [next, ruling] using attempt
  | abort raised => simpa only [next, ruling] using attempt
  | verdict raised fault | exhausted raised fault | timedOut raised fault | brokenOff raised fault =>
    simpa only [next, ruling] using Nat.le_trans attempt (judgement raised)
  | goesOn raised fault =>
    simpa only [next, ruling] using
      Nat.le_trans (Nat.le_trans attempt (judgement raised)) (job.clock.now_le_wake _ _)

theorem le_later (job : Job σ α) (stage : Stage σ) (count : Nat) :
    stage.instant ≤ (job.later stage count).instant := by
  induction count with
  | zero => exact Nat.le_refl _
  | succ count ih => exact Nat.le_trans ih (job.le_next _)

def notesFrom (job : Job σ α) (stage : Stage σ) (count : Nat) : List (Stamped Note) :=
  (List.range count).flatMap fun index => job.roundNotes (job.later stage index)

theorem notesFrom_succ (job : Job σ α) (stage : Stage σ) (count : Nat) :
    job.notesFrom stage (count + 1) =
      job.roundNotes stage ++ job.notesFrom (job.next stage) count := by
  simp only [notesFrom, List.range_succ_eq_map, List.flatMap_cons, List.flatMap_map, later_zero,
    later_next]

/-- Rounds from a stage on are over with the first one that ends the run, unless none does. -/
theorem rounds_account (job : Job σ α) (stage : Stage σ) (left : Nat) :
    ∃ last ≤ left,
      (∀ index < last, (job.ruling (job.later stage index)).ending? = none) ∧
      ((job.ruling (job.later stage last)).ending? = none → last = left) ∧
      job.rounds stage.deadline (left + 1) (.ofNat stage.index) stage.last stage.instant
          stage.state =
        ⟨(job.ruling (job.later stage last)).ending?,
          (job.later stage (last + 1)).instant - stage.instant, job.notesFrom stage (last + 1),
          (job.later stage (last + 1)).state⟩ := by
  induction left generalizing stage with
  | zero =>
    refine ⟨0, Nat.le_refl _, by omega, fun _ => rfl, ?_⟩
    rw [rounds_succ]
    cases ending : (job.ruling stage).ending? with
    | some final => simp [ending, notesFrom, later_succ]
    | none => simp [ending, notesFrom, later_succ, rounds, Course.after]
  | succ left ih =>
    rw [rounds_succ]
    cases ending : (job.ruling stage).ending? with
    | some final =>
      exact ⟨0, by omega, by omega, by simp [ending], by simp [ending, notesFrom, later_succ]⟩
    | none =>
      obtain ⟨last, within, goesOn, ends, course⟩ := ih (job.next stage)
      refine ⟨last + 1, by omega, ?_, ?_, ?_⟩
      · intro index before
        cases index with
        | zero => exact ending
        | succ index => rw [← job.later_next stage]; exact goesOn index (by omega)
      · intro unfinished
        rw [← job.later_next stage] at unfinished
        rw [ends unfinished]
      · have ahead := job.le_next stage
        have onward := job.le_later (job.next stage) (last + 1)
        simp only [deadline_next, index_next] at course
        simp only [Stage.retry, course, Course.after, notesFrom_succ job stage,
          ← job.later_next stage]
        congr 1
        omega

/-- All that is to be said of a run whose last round has a certain number. -/
structure Account (job : Job σ α) (start : Nat) (state : σ) (last : Nat) : Prop where
  starts : job.starts start = true
  within : last ≤ job.policy.retries.toNat
  -- Every earlier round is followed by another one.
  goesOn : ∀ index < last, (job.ruling (job.stageAt start state index)).ending? = none
  -- The last round ends the run unless the count of the attempts has run over.
  overrun : (job.ruling (job.stageAt start state last)).ending? = none →
    last = job.policy.retries.toNat ∧ job.policy.retries.toNat + 1 = 2 ^ 32
  value : (job.run start state).value =
    (job.ruling (job.stageAt start state last)).ending?.bind Ending.result?
  ended : start + (job.run start state).took = (job.stageAt start state (last + 1)).instant
  notes : (job.run start state).notes =
    (List.range (last + 1)).flatMap fun index => job.roundNotes (job.stageAt start state index)
  state : (job.run start state).state = (job.stageAt start state (last + 1)).state

/-- A run that breaks off before its first attempt, since its deadline cannot be told. -/
structure Unstarted (job : Job σ α) (start : Nat) (state : σ) : Prop where
  deadline : ∃ limit, job.terms.deadline? start = some limit ∧ job.clock.latest < limit
  run : job.run start state = ⟨none, 0, [], state⟩

theorem retries_lt_retry_iff (job : Job σ α) (stage : Stage σ)
    (within : stage.index ≤ job.policy.retries.toNat)
    (bounded : stage.index + 1 < 2 ^ 32) :
    job.policy.retries < stage.retry ↔ stage.index = job.policy.retries.toNat := by
  rw [UInt32.lt_iff_toNat_lt, Stage.retry, UInt32.toNat_ofNat_of_lt' bounded]
  omega

theorem index_of_retries_lt {job : Job σ α} {stage : Stage σ}
    (within : stage.index ≤ job.policy.retries.toNat) (spent : job.policy.retries < stage.retry) :
    stage.index = job.policy.retries.toNat := by
  rw [UInt32.lt_iff_toNat_lt, Stage.retry, UInt32.toNat_ofNat'] at spent
  have counted := Nat.mod_le (stage.index + 1) (2 ^ 32)
  omega

theorem starts_iff {job : Job σ α} {start : Nat} :
    job.starts start = true ↔
      ∀ limit, job.terms.deadline? start = some limit → limit ≤ job.clock.latest := by
  unfold starts
  cases job.terms.deadline? start <;> simp [Clock.tells]

theorem starts_of_none {job : Job σ α} {start : Nat}
    (free : job.terms.deadline? start = none) : job.starts start = true := by
  rw [starts, free]
  rfl

/-- A wait that is over by a deadline that can be told ends at an instant that can be told. -/
theorem overflows_of_mayWait {job : Job σ α} {start now : Nat} {retry : UInt32}
    (starts : job.starts start = true)
    (allowed : job.mayWait (job.terms.deadline? start) retry now = true) :
    job.overflows (job.terms.deadline? start) retry now = false := by
  rw [mayWait, Bool.and_eq_true] at allowed
  rw [overflows]
  cases deadline : job.terms.deadline? start with
  | none => rfl
  | some limit =>
    have told := starts_iff.mp starts limit deadline
    have fits := allowed.2
    rw [deadline, Option.all_some, decide_eq_true_eq] at fits
    simpa [Clock.tells] using Nat.le_trans fits told

theorem runFor_of_starts {job : Job σ α} {start : Nat} (starts : job.starts start = true)
    (count : Nat) (state : σ) :
    job.runFor count start state =
      job.rounds (job.stageAt start state 0).deadline count
        (.ofNat (job.stageAt start state 0).index) (job.stageAt start state 0).last start state := by
  rw [runFor, Activity.bind_apply, Activity.now_apply, Activity.after_at_once, if_pos starts]
  rfl

theorem runFor_of_not_starts {job : Job σ α} {start : Nat} (beyond : ¬ job.starts start = true)
    (count : Nat) (state : σ) : job.runFor count start state = ⟨some .brokenOff, 0, [], state⟩ := by
  rw [runFor, Activity.bind_apply, Activity.now_apply, Activity.after_at_once, if_neg beyond]
  rfl

theorem run_apply (job : Job σ α) (start : Nat) (state : σ) :
    job.run start state =
      let course := job.runFor (job.policy.retries.toNat + 1) start state
      ⟨course.value.bind Ending.result?, course.took, course.notes, course.state⟩ := by
  rw [run, Activity.bind_apply, Activity.pure_apply]
  simp [Course.after]

theorem unstarted_of_not_starts {job : Job σ α} {start : Nat} (beyond : ¬ job.starts start = true)
    (state : σ) : job.Unstarted start state := by
  constructor
  · simpa only [starts_iff, Classical.not_forall, Nat.not_le, exists_prop] using beyond
  · rw [run_apply, runFor_of_not_starts beyond]
    rfl

theorem not_unstarted {job : Job σ α} {start : Nat} {state : σ}
    (starts : job.starts start = true) : ¬ job.Unstarted start state := by
  rintro ⟨⟨limit, deadline, beyond⟩, _⟩
  exact absurd (starts_iff.mp starts limit deadline) (Nat.not_le.mpr beyond)

theorem run_of_result {job : Job σ α} {start : Nat} {state : σ} {result : Except Fault α}
    (starts : job.starts start = true)
    (ends : (job.ruling (job.stageAt start state 0)).ending? = some (.result result)) :
    job.run start state =
      ⟨some result, (job.next (job.stageAt start state 0)).instant - start,
        job.roundNotes (job.stageAt start state 0),
        (job.next (job.stageAt start state 0)).state⟩ := by
  have first := job.rounds_succ (job.stageAt start state 0) job.policy.retries.toNat
  rw [ends] at first
  rw [run_apply, runFor_of_starts starts, show job.rounds _ _ _ _ start state = _ from first]
  rfl

theorem run_of_verdict {job : Job σ α} {start : Nat} {state : σ} {raised fault : Fault}
    (starts : job.starts start = true)
    (ruling : job.ruling (job.stageAt start state 0) = .verdict raised fault) :
    let stage := job.stageAt start state 0
    job.run start state =
      ⟨some (.error fault), job.judgedAt stage raised - start, job.judgedNotes stage raised,
        (job.judgement stage raised).state⟩ := by
  intro stage
  have ends : (job.ruling stage).ending? = some (.result (.error fault)) :=
    congrArg Ruling.ending? ruling
  have ended : (job.next stage).instant = job.judgedAt stage raised := by
    simp only [next, stage, ruling]
  obtain ⟨left, notes⟩ := next_of_verdict ruling
  rw [run_of_result starts ends, ended, left, notes]

theorem run_of_accepted {job : Job σ α} {start : Nat} {state : σ} {value : α}
    (starts : job.starts start = true)
    (accepted : ∀ context, job.attempt context start state = ⟨.ok value, 0, [], state⟩) :
    ∃ context : Context, context.attempt = 0 ∧
      job.run start state = ⟨some (.ok value), 0, [⟨start, .attempt context⟩], state⟩ := by
  let stage := job.stageAt start state 0
  have tried : job.tried stage = ⟨.ok value, 0, [], state⟩ := accepted (job.told stage)
  have ruling : job.ruling stage = .success value :=
    ruling_eq_iff.mpr (congrArg Course.value tried)
  obtain ⟨left, atOnce, notes⟩ := next_of_unjudged (congrArg Ruling.raised? ruling)
  refine ⟨job.told stage, rfl, (run_of_result starts (congrArg Ruling.ending? ruling)).trans ?_⟩
  rw [left, atOnce, notes, triedAt, attemptNotes, tried]
  exact congrArg (Course.mk _ · _ _) (Nat.sub_self start)

/-- A run whose attempts are refused at once makes one of them, if the judgement ends the call. -/
theorem run_of_refused {job : Job σ α} {start : Nat} {state : σ} {raised fault : Fault}
    (starts : job.starts start = true)
    (refused : ∀ context, job.attempt context start state = ⟨.error raised, 0, [], state⟩)
    (noSignal : raised.isAbort = false)
    (verdict : (job.judge raised start state).value = .error fault) :
    ∃ context : Context, context.attempt = 0 ∧
      let judged := job.judge raised start state
      job.run start state =
        ⟨some (.error fault), judged.took,
          ⟨start, .attempt context⟩ :: ⟨start, .judged raised⟩ :: judged.notes, judged.state⟩ := by
  let stage := job.stageAt start state 0
  have tried : job.tried stage = ⟨.error raised, 0, [], state⟩ := refused (job.told stage)
  have ended : job.triedAt stage = start := by
    rw [triedAt, tried]
    rfl
  have judged : job.judgement stage raised = job.judge raised start state := by
    rw [judgement, ended, tried]
  have ruling : job.ruling stage = .verdict raised fault := by
    apply ruling_eq_iff.mpr
    exact ⟨by rw [tried], noSignal, by rw [judged, verdict]⟩
  have noted : job.judgedNotes stage raised =
      ⟨start, .attempt (job.told stage)⟩ :: ⟨start, .judged raised⟩ ::
        (job.judge raised start state).notes := by
    rw [judgedNotes, attemptNotes, tried, judged, ended]
    rfl
  refine ⟨job.told stage, rfl, (run_of_verdict starts ruling).trans ?_⟩
  rw [noted, judgedAt, judged, ended, Nat.add_sub_cancel_left]

theorem account_of_starts {job : Job σ α} {start : Nat} (starts : job.starts start = true)
    (state : σ) : ∃ last, job.Account start state last := by
  let origin : Stage σ := ⟨0, job.terms.deadline? start, start, state, none⟩
  obtain ⟨last, within, goesOn, ends, course⟩ :=
    job.rounds_account origin job.policy.retries.toNat
  have run := job.run_apply start state
  rw [runFor_of_starts starts, show job.stageAt start state 0 = origin from rfl, course] at run
  refine ⟨last, starts, within, goesOn, ?_, by rw [run]; rfl, ?_, by rw [run]; rfl,
    by rw [run]; rfl⟩
  · intro unfinished
    have spent := ends unfinished
    refine ⟨spent, ?_⟩
    obtain ⟨raised, fault, ruling⟩ := (Ruling.ending?_eq_none_iff _).mp unfinished
    obtain ⟨_, _, _, left, _⟩ := ruling_eq_iff.mp ruling
    have size := job.policy.retries.toNat_lt
    have reached : (job.later origin last).index = job.policy.retries.toNat := by
      rw [index_later, spent]
      exact Nat.zero_add _
    have full : ¬ (job.later origin last).index + 1 < 2 ^ 32 := fun bounded =>
      left ((job.retries_lt_retry_iff _ (Nat.le_of_eq reached) bounded).mpr reached)
    omega
  · rw [run]
    exact Nat.add_sub_of_le (job.le_later origin (last + 1))

/-- A run breaks off before its first attempt or goes through its rounds. -/
theorem run_account (job : Job σ α) (start : Nat) (state : σ) :
    job.Unstarted start state ∨ ∃ last, job.Account start state last := by
  by_cases starts : job.starts start = true
  · exact .inr (account_of_starts starts state)
  · exact .inl (unstarted_of_not_starts starts state)

theorem account_of_value {job : Job σ α} {start : Nat} {state : σ} {result : Except Fault α}
    (came : (job.run start state).value = some result) :
    ∃ last, job.Account start state last ∧
      (job.ruling (job.stageAt start state last)).ending? = some (.result result) := by
  rcases job.run_account start state with unstarted | ⟨last, account⟩
  · rw [unstarted.run] at came
    cases came
  · rw [account.value] at came
    exact ⟨last, account, Ending.bind_result?_eq_some_iff.mp came⟩

theorem account_of_mem {job : Job σ α} {start : Nat} {state : σ} {note : Stamped Note}
    (left : note ∈ (job.run start state).notes) : ∃ last, job.Account start state last := by
  refine (job.run_account start state).resolve_left fun unstarted => ?_
  rw [unstarted.run] at left
  cases left

/-- A run comes to an end while the count of its attempts cannot run over. -/
theorem Account.over {job : Job σ α} {start last : Nat} {state : σ}
    (account : job.Account start state last) (few : job.policy.retries.toNat < 2 ^ 32 - 1) :
    ∃ ending, (job.ruling (job.stageAt start state last)).ending? = some ending := by
  cases ends : (job.ruling (job.stageAt start state last)).ending? with
  | some ending => exact ⟨ending, rfl⟩
  | none =>
    have full := (account.overrun ends).2
    omega

/-- A run without a result breaks off in its last round, while the count cannot run over. -/
theorem Account.brokenOff {job : Job σ α} {start last : Nat} {state : σ}
    (account : job.Account start state last) (few : job.policy.retries.toNat < 2 ^ 32 - 1)
    (without : (job.run start state).value = none) :
    ∃ raised fault, job.ruling (job.stageAt start state last) = .brokenOff raised fault := by
  obtain ⟨ending, ends⟩ := account.over few
  rw [account.value, ends] at without
  cases ending with
  | result result => cases without
  | brokenOff => exact (Ruling.ending?_eq_brokenOff_iff _).mp ends

/-- A round that ends a run is the last one. -/
theorem Account.eq_last {job : Job σ α} {start last index : Nat} {state : σ}
    (account : job.Account start state last) (reached : index ≤ last) {ending : Ending α}
    (ends : (job.ruling (job.stageAt start state index)).ending? = some ending) : index = last := by
  by_cases before : index < last
  · cases (account.goesOn index before).symm.trans ends
  · omega

theorem Account.ends {job : Job σ α} {start last index : Nat} {state : σ}
    (account : job.Account start state last) (reached : index ≤ last) {result : Except Fault α}
    (ends : (job.ruling (job.stageAt start state index)).ending? = some (.result result)) :
    index = last ∧ (job.run start state).value = some result := by
  have final := account.eq_last reached ends
  refine ⟨final, ?_⟩
  rw [account.value, ← final, ends]
  rfl

/-- A signal is the result of the run, which is over with the attempt that raised it. -/
theorem Account.aborted {job : Job σ α} {start last index : Nat} {state : σ} {raised : Fault}
    (account : job.Account start state last) (reached : index ≤ last)
    (failed : (job.tried (job.stageAt start state index)).value = .error raised)
    (signal : raised.isAbort = true) :
    index = last ∧ (job.run start state).value = some (.error raised) ∧
      start + (job.run start state).took = job.triedAt (job.stageAt start state index) ∧
      (job.run start state).state = (job.tried (job.stageAt start state index)).state ∧
      job.roundNotes (job.stageAt start state index) =
        job.attemptNotes (job.stageAt start state index) := by
  have ruling : job.ruling (job.stageAt start state index) = .abort raised :=
    ruling_eq_iff.mpr ⟨failed, signal⟩
  obtain ⟨final, value⟩ := account.ends reached (congrArg Ruling.ending? ruling)
  obtain ⟨left, atOnce, notes⟩ := next_of_unjudged (congrArg Ruling.raised? ruling)
  refine ⟨final, value, ?_, ?_, notes⟩
  · rw [account.ended, ← final, stageAt_succ, atOnce]
  · rw [account.state, ← final, stageAt_succ, left]

end Job
end BusLink.Retry
