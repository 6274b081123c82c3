import BusLink.Proofs.Retry.Rounds
import BusLink.Proofs.Wording

set_option autoImplicit false

namespace BusLink

variable {σ α β : Type} {first second : Option String}

/-- Wherever two activities start together, their courses are in step. -/
def Activity.InStep (first second : Option String) (values : α → α → Prop)
    (activity other : Activity Note σ α) : Prop :=
  ∀ now state, (activity now state).InStep first second values (other now state)

namespace Activity

variable {values : α → α → Prop} {results : β → β → Prop}

theorem inStep_self (activity : Activity Note σ α) : InStep first second Eq activity activity :=
  fun now state => ⟨rfl, rfl, abreast_self (activity now state).notes, rfl⟩

theorem inStep_pure {value other : α} (matching : values value other) :
    InStep first second values (pure value : Activity Note σ α) (pure other) :=
  fun _ _ => ⟨matching, rfl, .nil, rfl⟩

theorem inStep_note {note other : Note} (worded : note.Reworded first second other) :
    InStep first second Eq (Activity.note note : Activity Note σ Unit) (Activity.note other) :=
  fun now _ => ⟨rfl, rfl, abreast_single now worded, rfl⟩

theorem inStep_bind {activity other : Activity Note σ α} {next rest : α → Activity Note σ β}
    (start : InStep first second values activity other)
    (onward : ∀ value matched, values value matched →
      InStep first second results (next value) (rest matched)) :
    InStep first second results (activity >>= next) (other >>= rest) := by
  intro now state
  have begun := start now state
  have done := onward _ _ begun.value (now + (activity now state).took) (activity now state).state
  simp only [bind_apply, begun.took, begun.state]
  constructor
  · exact done.value
  · simp only [took_after, done.took, begun.took]
  · exact begun.notes.append done.notes
  · exact done.state

theorem inStep_bind_same {activity other : Activity Note σ α} {next rest : α → Activity Note σ β}
    (start : InStep first second Eq activity other)
    (onward : ∀ value, InStep first second results (next value) (rest value)) :
    InStep first second results (activity >>= next) (other >>= rest) := by
  refine inStep_bind start ?_
  rintro value _ rfl
  exact onward value

end Activity

namespace Retry

/-- The same ruling, with a judged fault that may be reworded. -/
inductive Ruling.Reworded (first second : Option String) : Ruling α → Ruling α → Prop where
  | success (value : α) : Reworded first second (.success value) (.success value)
  | abort (raised : Fault) : Reworded first second (.abort raised) (.abort raised)
  | verdict (raised : Fault) {fault other : Fault} (worded : fault.Reworded first second other) :
      Reworded first second (.verdict raised fault) (.verdict raised other)
  | exhausted (raised : Fault) {fault other : Fault} (worded : fault.Reworded first second other) :
      Reworded first second (.exhausted raised fault) (.exhausted raised other)
  | timedOut (raised : Fault) {fault other : Fault} (worded : fault.Reworded first second other) :
      Reworded first second (.timedOut raised fault) (.timedOut raised other)
  | brokenOff (raised : Fault) {fault other : Fault} (worded : fault.Reworded first second other) :
      Reworded first second (.brokenOff raised fault) (.brokenOff raised other)
  | goesOn (raised : Fault) {fault other : Fault} (worded : fault.Reworded first second other) :
      Reworded first second (.goesOn raised fault) (.goesOn raised other)

theorem Ruling.Reworded.raised? {ruling other : Ruling α}
    (worded : ruling.Reworded first second other) : other.raised? = ruling.raised? := by
  cases worded <;> rfl

inductive Ending.Reworded (first second : Option String) : Ending α → Ending α → Prop where
  | result {value other : Except Fault α} (worded : Answer.Reworded first second Eq value other) :
      Reworded first second (.result value) (.result other)
  | brokenOff : Reworded first second .brokenOff .brokenOff

theorem Ending.Reworded.result? {ending other : Option (Ending α)}
    (worded : Option.Rel (Ending.Reworded first second) ending other) :
    Option.Rel (Answer.Reworded first second Eq) (ending.bind Ending.result?)
      (other.bind Ending.result?) := by
  cases worded with
  | none => exact .none
  | some worded =>
    cases worded with
    | result worded => exact .some worded
    | brokenOff => exact .none

theorem Ruling.Reworded.ending? {ruling other : Ruling α}
    (worded : ruling.Reworded first second other) :
    Option.Rel (Ending.Reworded first second) ruling.ending? other.ending? := by
  cases worded with
  | success value => exact .some (.result (.ok rfl))
  | abort raised => exact .some (.result (.error (.same raised)))
  | verdict raised worded => exact .some (.result (.error worded))
  | exhausted raised worded | timedOut raised worded =>
    exact .some (.result (.error worded.terminal))
  | brokenOff raised worded => exact .some .brokenOff
  | goesOn raised worded => exact .none

structure Stage.InStep (first second : Option String) (stage other : Stage σ) : Prop where
  index : other.index = stage.index
  deadline : other.deadline = stage.deadline
  instant : other.instant = stage.instant
  state : other.state = stage.state
  last : Option.Rel (Fault.Reworded first second) stage.last other.last

theorem Stage.InStep.retry {stage beside : Stage σ} (together : stage.InStep first second beside) :
    beside.retry = stage.retry := by
  rw [Stage.retry, Stage.retry, together.index]

namespace Job

/-- Two jobs whose judgements and attempts are in step. An attempt comes to the same whichever of
the two it is told; the judgements of a fault may differ in the wording of its meaning. -/
structure InStep (first second : Option String) (job other : Job σ α) : Prop where
  clock : other.clock = job.clock
  policy : other.policy = job.policy
  entity : other.entity = job.entity
  terms : other.terms = job.terms
  judge : ∀ raised, Activity.InStep first second
    (Answer.Reworded first second (Fault.Reworded first second))
    (job.judge raised) (other.judge raised)
  attempt : ∀ told context, Context.Reworded first second told context →
    Activity.InStep first second Eq (job.attempt told) (other.attempt context)

variable {job other : Job σ α} {stage beside : Stage σ}

section Round

variable (inStep : job.InStep first second other) (together : stage.InStep first second beside)

include inStep together

theorem InStep.told : (job.told stage).Reworded first second (other.told beside) := by
  constructor
  · simp only [Job.told, context, together.index]
  · simp only [Job.told, context, together.deadline, together.instant]
  · simp only [Job.told, context, inStep.terms]
    split
    · exact together.last
    · exact .none

theorem InStep.tried : (job.tried stage).InStep first second Eq (other.tried beside) := by
  rw [Job.tried, Job.tried, together.instant, together.state]
  exact inStep.attempt _ _ (inStep.told together) stage.instant stage.state

theorem InStep.triedAt : other.triedAt beside = job.triedAt stage := by
  rw [Job.triedAt, Job.triedAt, (inStep.tried together).took, together.instant]

theorem InStep.judgement (raised : Fault) :
    (job.judgement stage raised).InStep first second
      (Answer.Reworded first second (Fault.Reworded first second))
      (other.judgement beside raised) := by
  rw [Job.judgement, Job.judgement, inStep.triedAt together, (inStep.tried together).state]
  exact inStep.judge raised _ _

theorem InStep.judgedAt (raised : Fault) :
    other.judgedAt beside raised = job.judgedAt stage raised := by
  rw [Job.judgedAt, Job.judgedAt, inStep.triedAt together, (inStep.judgement together raised).took]

theorem InStep.mayWait (raised : Fault) :
    other.mayWait beside.deadline beside.retry (other.judgedAt beside raised) =
      job.mayWait stage.deadline stage.retry (job.judgedAt stage raised) := by
  rw [Job.mayWait, Job.mayWait, inStep.policy, together.deadline, together.retry,
    inStep.judgedAt together]

theorem InStep.overflows (raised : Fault) :
    other.overflows beside.deadline beside.retry (other.judgedAt beside raised) =
      job.overflows stage.deadline stage.retry (job.judgedAt stage raised) := by
  rw [Job.overflows, Job.overflows, inStep.clock, inStep.policy, together.deadline, together.retry,
    inStep.judgedAt together]

theorem InStep.refused {raised fault : Fault}
    (refused : (job.judgement stage raised).value = .error fault) :
    ∃ same, (other.judgement beside raised).value = .error same ∧
      fault.Reworded first second same := by
  have judged := (inStep.judgement together raised).value
  rw [refused] at judged
  generalize (other.judgement beside raised).value = verdict at judged
  cases judged with
  | error worded => exact ⟨_, rfl, worded⟩

theorem InStep.approved {raised fault : Fault}
    (approved : (job.judgement stage raised).value = .ok fault) :
    ∃ same, (other.judgement beside raised).value = .ok same ∧
      fault.Reworded first second same := by
  have judged := (inStep.judgement together raised).value
  rw [approved] at judged
  generalize (other.judgement beside raised).value = verdict at judged
  cases judged with
  | ok worded => exact ⟨_, rfl, worded⟩

theorem InStep.ruling : (job.ruling stage).Reworded first second (other.ruling beside) := by
  have tried : (other.tried beside).value = (job.tried stage).value :=
    (inStep.tried together).value.symm
  have rules := job.ruling_rules stage
  cases ruling : job.ruling stage with
  | success value =>
    rw [ruling] at rules
    have same : other.ruling beside = .success value := ruling_eq_of_rules (tried.trans rules)
    rw [same]
    exact .success value
  | abort raised =>
    rw [ruling] at rules
    obtain ⟨failed, signal⟩ := rules
    have same : other.ruling beside = .abort raised :=
      ruling_eq_of_rules ⟨tried.trans failed, signal⟩
    rw [same]
    exact .abort raised
  | verdict raised fault =>
    rw [ruling] at rules
    obtain ⟨failed, noSignal, refused⟩ := rules
    obtain ⟨worded, verdict, reworded⟩ := inStep.refused together refused
    have same : other.ruling beside = .verdict raised worded :=
      ruling_eq_of_rules ⟨tried.trans failed, noSignal, verdict⟩
    rw [same]
    exact .verdict raised reworded
  | exhausted raised fault =>
    rw [ruling] at rules
    obtain ⟨failed, noSignal, approved, spent⟩ := rules
    obtain ⟨worded, verdict, reworded⟩ := inStep.approved together approved
    rw [← inStep.policy, ← together.retry] at spent
    have same : other.ruling beside = .exhausted raised worded :=
      ruling_eq_of_rules ⟨tried.trans failed, noSignal, verdict, spent⟩
    rw [same]
    exact .exhausted raised reworded
  | timedOut raised fault =>
    rw [ruling] at rules
    obtain ⟨failed, noSignal, approved, left, tellable, refused⟩ := rules
    obtain ⟨worded, verdict, reworded⟩ := inStep.approved together approved
    rw [← inStep.policy, ← together.retry] at left
    rw [← inStep.overflows together] at tellable
    rw [← inStep.mayWait together] at refused
    have same : other.ruling beside = .timedOut raised worded :=
      ruling_eq_of_rules ⟨tried.trans failed, noSignal, verdict, left, tellable, refused⟩
    rw [same]
    exact .timedOut raised reworded
  | brokenOff raised fault =>
    rw [ruling] at rules
    obtain ⟨failed, noSignal, approved, left, beyond⟩ := rules
    obtain ⟨worded, verdict, reworded⟩ := inStep.approved together approved
    rw [← inStep.policy, ← together.retry] at left
    rw [← inStep.overflows together] at beyond
    have same : other.ruling beside = .brokenOff raised worded :=
      ruling_eq_of_rules ⟨tried.trans failed, noSignal, verdict, left, beyond⟩
    rw [same]
    exact .brokenOff raised reworded
  | goesOn raised fault =>
    rw [ruling] at rules
    obtain ⟨failed, noSignal, approved, left, tellable, allowed⟩ := rules
    obtain ⟨worded, verdict, reworded⟩ := inStep.approved together approved
    rw [← inStep.policy, ← together.retry] at left
    rw [← inStep.overflows together] at tellable
    rw [← inStep.mayWait together] at allowed
    have same : other.ruling beside = .goesOn raised worded :=
      ruling_eq_of_rules ⟨tried.trans failed, noSignal, verdict, left, tellable, allowed⟩
    rw [same]
    exact .goesOn raised reworded

theorem InStep.attemptNotes :
    Abreast first second (job.attemptNotes stage) (other.attemptNotes beside) :=
  .cons ⟨together.instant, .attempt (inStep.told together)⟩ (inStep.tried together).notes

theorem InStep.judgedNotes (raised : Fault) :
    Abreast first second (job.judgedNotes stage raised) (other.judgedNotes beside raised) :=
  (inStep.attemptNotes together).append
    (.cons ⟨inStep.triedAt together, .same (.judged raised)⟩ (inStep.judgement together raised).notes)

theorem InStep.report? :
    Option.Rel (Event.Reworded first second) (job.report? stage) (other.report? beside) := by
  have ruled := inStep.ruling together
  unfold Job.report?
  rw [inStep.entity, inStep.policy, together.retry]
  generalize job.ruling stage = ruling at ruled
  generalize other.ruling beside = same at ruled
  cases ruled with
  | success value => exact .none
  | abort raised => exact .none
  | verdict raised worded => exact .none
  | exhausted raised worded => exact .some (.retryExhausted _ _ worded)
  | timedOut raised worded => exact .some (.retryTimedOut _ worded)
  | brokenOff raised worded => exact .none
  | goesOn raised worded => exact .some (.retrying _ _ _ worded)

theorem InStep.roundNotes :
    Abreast first second (job.roundNotes stage) (other.roundNotes beside) := by
  have reported := inStep.report? together
  rw [Job.roundNotes, Job.roundNotes, (inStep.ruling together).raised?]
  cases (job.ruling stage).raised? with
  | none => exact inStep.attemptNotes together
  | some raised =>
    refine (inStep.judgedNotes together raised).append ?_
    rw [inStep.judgedAt together]
    generalize job.report? stage = report at reported
    generalize other.report? beside = same at reported
    cases reported with
    | none => exact .nil
    | some worded => exact abreast_single _ (.event worded)

theorem InStep.next : (job.next stage).InStep first second (other.next beside) := by
  have ruled := inStep.ruling together
  have raised := (inStep.ruling together).raised?
  constructor
  · rw [index_next, index_next, together.index]
  · rw [deadline_next, deadline_next, together.deadline]
  · simp only [Job.next, inStep.triedAt together, inStep.judgedAt together, inStep.clock,
      inStep.policy, together.retry]
    generalize job.ruling stage = ruling at ruled
    generalize other.ruling beside = same at ruled
    cases ruled <;> rfl
  · simp only [Job.next, raised, (inStep.tried together).state,
      (inStep.judgement together _).state]
  · simp only [Job.next]
    generalize job.ruling stage = ruling at ruled
    generalize other.ruling beside = same at ruled
    cases ruled with
    | goesOn raised worded => exact .some worded
    | _ => exact .none

end Round

variable (inStep : job.InStep first second other)

include inStep

/-- The attempts of jobs that are in step start at the same instants in the same states. -/
theorem InStep.stageAt (start : Nat) (state : σ) (index : Nat) :
    (job.stageAt start state index).InStep first second (other.stageAt start state index) := by
  induction index with
  | zero => exact ⟨rfl, congrArg (·.deadline? start) inStep.terms, rfl, rfl, .none⟩
  | succ index ih =>
    rw [stageAt_succ, stageAt_succ]
    exact inStep.next ih

theorem InStep.rounds (together : stage.InStep first second beside) (left : Nat) :
    (job.rounds stage.deadline left (.ofNat stage.index) stage.last stage.instant
        stage.state).InStep first second (Option.Rel (Ending.Reworded first second))
      (other.rounds beside.deadline left (.ofNat beside.index) beside.last beside.instant
        beside.state) := by
  induction left generalizing stage beside with
  | zero => exact ⟨.none, rfl, .nil, together.state⟩
  | succ left ih =>
    have next := inStep.next together
    have notes := inStep.roundNotes together
    have ended := (inStep.ruling together).ending?
    rw [rounds_succ, rounds_succ]
    generalize (job.ruling stage).ending? = ending at ended
    generalize (other.ruling beside).ending? = same at ended
    cases ended with
    | some worded =>
      exact ⟨.some worded, by simp only [next.instant, together.instant], notes, next.state⟩
    | none =>
      have onward := ih next
      refine ⟨onward.value, ?_, notes.append onward.notes, onward.state⟩
      have later := onward.took
      simp only [Activity.took_after, next.instant, together.instant] at later ⊢
      exact congrArg _ later

theorem InStep.starts (start : Nat) : other.starts start = job.starts start := by
  rw [Job.starts, Job.starts, inStep.terms, inStep.clock]

theorem InStep.runFor (count : Nat) (start : Nat) (state : σ) :
    (job.runFor count start state).InStep first second (Option.Rel (Ending.Reworded first second))
      (other.runFor count start state) := by
  by_cases starts : job.starts start = true
  · rw [runFor_of_starts starts, runFor_of_starts ((inStep.starts start).trans starts)]
    exact inStep.rounds (inStep.stageAt start state 0) count
  · have beyond : ¬ other.starts start = true := by rwa [inStep.starts]
    rw [runFor_of_not_starts starts, runFor_of_not_starts beyond]
    exact ⟨.some .brokenOff, rfl, .nil, rfl⟩

/-- Jobs that are in step come to the same result at the same instant. -/
theorem InStep.run :
    Activity.InStep first second (Option.Rel (Answer.Reworded first second Eq)) job.run
      other.run := by
  intro start state
  have course := inStep.runFor (job.policy.retries.toNat + 1) start state
  rw [run_apply, run_apply, inStep.policy]
  exact ⟨Ending.Reworded.result? course.value, course.took, course.notes, course.state⟩

end Job
end Retry
end BusLink
