import BusLink.Proofs.Retry.Budget
import BusLink.Proofs.Retry.Stopping
import Mathlib.Data.List.Basic

set_option autoImplicit false

namespace BusLink

/-- The note with no more about the start of an attempt than its number. -/
def Note.numbered : Note → Note
  | .attempt context => .attempt ⟨context.attempt, none, none⟩
  | note => note

/-- What happened and when, but not what attempts were told besides their numbers. -/
def outline (notes : List (Stamped Note)) : List (Stamped Note) :=
  notes.map fun note => ⟨note.instant, note.what.numbered⟩

@[simp] theorem outline_nil : outline [] = [] := rfl

@[simp] theorem outline_cons (note : Stamped Note) (notes : List (Stamped Note)) :
    outline (note :: notes) = ⟨note.instant, note.what.numbered⟩ :: outline notes := rfl

@[simp] theorem outline_append (first second : List (Stamped Note)) :
    outline (first ++ second) = outline first ++ outline second :=
  List.map_append

theorem outline_flatMap (notes : Nat → List (Stamped Note)) (indices : List Nat) :
    outline (indices.flatMap notes) = indices.flatMap fun index => outline (notes index) :=
  List.map_flatMap

theorem eventsOf_outline (notes : List (Stamped Note)) :
    eventsOf (outline notes) = eventsOf notes := by
  have kept (note : Note) : note.numbered.event? = note.event? := by cases note <;> rfl
  simp only [eventsOf, outline, List.filterMap_map, Function.comp_def, kept]

namespace Retry

variable {σ α : Type}

/-- Whether the limits of the run end it, or it breaks off at them. -/
def Ruling.isCutShort : Ruling α → Bool
  | .exhausted .. | .timedOut .. | .brokenOff .. => true
  | _ => false

/-- The same stage but for the deadline. -/
structure Stage.Beside (stage other : Stage σ) : Prop where
  index : other.index = stage.index
  instant : other.instant = stage.instant
  state : other.state = stage.state
  last : other.last = stage.last

theorem Stage.Beside.retry {stage other : Stage σ} (beside : stage.Beside other) :
    other.retry = stage.retry := by
  rw [Stage.retry, beside.index, Stage.retry]

theorem Ruling.isCutShort_of_goesOn {ruling : Ruling α} (goesOn : ruling.ending? = none) :
    ruling.isCutShort = false := by
  obtain ⟨raised, fault, rfl⟩ := ruling.ending?_eq_none_iff.mp goesOn
  rfl

namespace Job

/-- The second job is the first one under looser limits, for runs that start at an instant. -/
structure Loosened (first second : Job σ α) (start : Nat) : Prop where
  clock : second.clock = first.clock
  entity : second.entity = first.entity
  mode : second.policy.mode = first.policy.mode
  unit : second.policy.unit = first.policy.unit
  longest : second.policy.longest = first.policy.longest
  judge : second.judge = first.judge
  -- An attempt goes by nothing that it is told but its number.
  attempt : ∀ told other : Context, told.attempt = other.attempt →
    first.attempt told = second.attempt other
  retries : first.policy.retries ≤ second.policy.retries
  -- If there still is a deadline, there was one before, and no later one.
  deadline : ∀ limit, second.terms.deadline? start = some limit →
    ∃ earlier ≤ limit, first.terms.deadline? start = some earlier

variable {first second : Job σ α} {start : Nat} {state : σ} {stage other : Stage σ}

theorem roundNotes_of_report {job : Job σ α} {report : Event}
    (reported : job.report? stage = some report) :
    ∃ raised, (job.ruling stage).raised? = some raised ∧
      job.roundNotes stage =
        job.judgedNotes stage raised ++ [⟨job.judgedAt stage raised, .event report⟩] := by
  cases judged : (job.ruling stage).raised? with
  | none =>
    unfold report? at reported
    cases ruling : job.ruling stage <;> simp_all [Ruling.raised?]
  | some raised =>
    refine ⟨raised, rfl, ?_⟩
    simp only [roundNotes, judged, reported, Option.toList_some, List.map_cons, List.map_nil]

theorem isCutShort_of_unreported {job : Job σ α} (unreported : job.report? stage = none)
    (unbroken : ∀ raised fault, job.ruling stage ≠ .brokenOff raised fault) :
    (job.ruling stage).isCutShort = false := by
  unfold report? at unreported
  cases ruling : job.ruling stage with
  | exhausted raised fault | timedOut raised fault | goesOn raised fault =>
    rw [ruling] at unreported
    cases unreported
  | brokenOff raised fault => exact absurd ruling (unbroken raised fault)
  | success value | abort raised | verdict raised fault => rfl

/-- A round that ends a run and reports it has used up the retries or the time. -/
theorem eq_of_report {job : Job σ α} {ending : Ending α} {report : Event}
    (ends : (job.ruling stage).ending? = some ending)
    (reported : job.report? stage = some report) :
    ∃ fault, report = .retryExhausted job.entity stage.retry fault ∨
      report = .retryTimedOut job.entity fault := by
  unfold report? at reported
  cases ruling : job.ruling stage with
  | exhausted raised fault =>
    rw [ruling] at reported
    cases reported
    exact ⟨fault, .inl rfl⟩
  | timedOut raised fault =>
    rw [ruling] at reported
    cases reported
    exact ⟨fault, .inr rfl⟩
  | goesOn raised fault =>
    rw [ruling] at ends
    cases ends
  | success value | abort raised | verdict raised fault | brokenOff raised fault =>
    rw [ruling] at reported
    cases reported

section Rounds

variable (loosened : Loosened first second start) (beside : stage.Beside other)

include loosened

theorem Loosened.backoff (retry : UInt32) :
    second.policy.backoff retry = first.policy.backoff retry := by
  simp only [Policy.backoff, Policy.unbounded, loosened.mode, loosened.unit, loosened.longest]

theorem Loosened.delay (retry : UInt32) :
    second.policy.delay retry = first.policy.delay retry := by
  simp only [Policy.delay, loosened.backoff]

theorem Loosened.admits (retry : UInt32) :
    second.policy.admits retry = first.policy.admits retry := by
  simp only [Policy.admits, loosened.backoff, loosened.longest]

/-- A wait that was allowed is allowed under a later deadline, or without one. -/
theorem Loosened.mayWait {retry : UInt32} {now : Nat}
    (allowed : first.mayWait (first.terms.deadline? start) retry now = true) :
    second.mayWait (second.terms.deadline? start) retry now = true := by
  rw [Job.mayWait, Bool.and_eq_true] at allowed ⊢
  obtain ⟨admitted, fits⟩ := allowed
  refine ⟨(loosened.admits retry).trans admitted, ?_⟩
  cases later : second.terms.deadline? start with
  | none => rfl
  | some limit =>
    obtain ⟨earlier, ordered, deadline⟩ := loosened.deadline limit later
    rw [deadline] at fits
    rw [loosened.delay]
    simp only [Option.all_some, decide_eq_true_eq] at fits ⊢
    exact Nat.le_trans fits ordered

theorem Loosened.overflows {limit : Nat} (later : second.terms.deadline? start = some limit)
    (retry : UInt32) (now : Nat) :
    second.overflows (second.terms.deadline? start) retry now =
      first.overflows (first.terms.deadline? start) retry now := by
  obtain ⟨earlier, _, deadline⟩ := loosened.deadline limit later
  simp only [Job.overflows, later, deadline, loosened.clock, loosened.delay, Option.isSome_some]

include beside

omit loosened in
theorem told_beside : (first.told stage).attempt = (second.told other).attempt := by
  simp only [Job.told, context, beside.index]

theorem Loosened.tried : second.tried other = first.tried stage := by
  rw [Job.tried, Job.tried, beside.instant, beside.state, loosened.attempt _ _ (told_beside beside)]

theorem Loosened.triedAt : second.triedAt other = first.triedAt stage := by
  rw [Job.triedAt, loosened.tried beside, beside.instant, Job.triedAt]

theorem Loosened.judgement (raised : Fault) :
    second.judgement other raised = first.judgement stage raised := by
  rw [Job.judgement, loosened.judge, loosened.triedAt beside, loosened.tried beside, Job.judgement]

theorem Loosened.judgedAt (raised : Fault) :
    second.judgedAt other raised = first.judgedAt stage raised := by
  rw [Job.judgedAt, loosened.triedAt beside, loosened.judgement beside, Job.judgedAt]

theorem Loosened.attemptNotes :
    outline (second.attemptNotes other) = outline (first.attemptNotes stage) := by
  have counted : (first.told stage).attempt = (second.told other).attempt := told_beside beside
  simp only [Job.attemptNotes, outline_cons, Note.numbered, counted, beside.instant,
    loosened.tried beside]

theorem Loosened.judgedNotes (raised : Fault) :
    outline (second.judgedNotes other raised) = outline (first.judgedNotes stage raised) := by
  simp only [Job.judgedNotes, outline_append, loosened.attemptNotes beside, loosened.triedAt beside,
    loosened.judgement beside]

end Rounds

section Runs

variable (loosened : Loosened first second start) {index : Nat}
variable (beside : (first.stageAt start state index).Beside (second.stageAt start state index))

include loosened beside

/-- A round that is not cut short comes to the same under looser limits. -/
theorem Loosened.ruling (starts : second.starts start = true)
    (free : (first.ruling (first.stageAt start state index)).isCutShort = false) :
    second.ruling (second.stageAt start state index) =
      first.ruling (first.stageAt start state index) := by
  have rules := first.ruling_rules (first.stageAt start state index)
  refine ruling_eq_of_rules ?_
  cases ruling : first.ruling (first.stageAt start state index) with
  | success value =>
    rw [ruling] at rules
    rwa [Rules, loosened.tried beside]
  | abort raised =>
    rw [ruling] at rules
    rwa [Rules, loosened.tried beside]
  | verdict raised fault =>
    rw [ruling] at rules
    rwa [Rules, loosened.tried beside, loosened.judgement beside]
  | exhausted raised fault | timedOut raised fault | brokenOff raised fault =>
    rw [ruling] at free
    cases free
  | goesOn raised fault =>
    rw [ruling] at rules
    obtain ⟨failed, noSignal, judged, left, _, allowed⟩ := rules
    rw [deadline_stageAt] at allowed
    have waits := loosened.mayWait allowed
    rw [Rules, loosened.tried beside, loosened.judgement beside, loosened.judgedAt beside,
      beside.retry, deadline_stageAt]
    refine ⟨failed, noSignal, judged, ?_, overflows_of_mayWait starts waits, waits⟩
    exact fun spent => left (UInt32.lt_of_le_of_lt loosened.retries spent)

/-- A round that breaks the run off does so too under a later deadline. -/
theorem Loosened.ruling_of_brokenOff {raised fault : Fault} {limit : Nat}
    (broken : first.ruling (first.stageAt start state index) = .brokenOff raised fault)
    (later : second.terms.deadline? start = some limit) :
    second.ruling (second.stageAt start state index) = .brokenOff raised fault := by
  obtain ⟨failed, noSignal, judged, left, beyond⟩ := ruling_eq_iff.mp broken
  rw [deadline_stageAt] at beyond
  refine ruling_eq_of_rules ?_
  rw [Rules, loosened.tried beside, loosened.judgement beside, loosened.judgedAt beside,
    beside.retry, deadline_stageAt, loosened.overflows later]
  exact ⟨failed, noSignal, judged,
    fun spent => left (UInt32.lt_of_le_of_lt loosened.retries spent), beyond⟩

theorem Loosened.report_of_brokenOff {raised fault : Fault}
    (broken : first.ruling (first.stageAt start state index) = .brokenOff raised fault)
    (without : second.terms.deadline? start = none) :
    (second.ruling (second.stageAt start state index)).raised? = some raised ∧
      ∃ report, second.report? (second.stageAt start state index) = some report := by
  obtain ⟨failed, noSignal, judged, left, _⟩ := ruling_eq_iff.mp broken
  rw [← loosened.tried beside] at failed
  rw [← loosened.judgement beside] at judged
  rw [← beside.retry] at left
  have spared : ¬ second.policy.retries < (second.stageAt start state index).retry :=
    fun spent => left (UInt32.lt_of_le_of_lt loosened.retries spent)
  have tellable (retry : UInt32) (now : Nat) :
      second.overflows (second.stageAt start state index).deadline retry now = false := by
    rw [deadline_stageAt, without]
    rfl
  cases allowed : second.mayWait (second.stageAt start state index).deadline
      (second.stageAt start state index).retry
      (second.judgedAt (second.stageAt start state index) raised) with
  | true =>
    have ruling : second.ruling (second.stageAt start state index) = .goesOn raised fault :=
      ruling_eq_iff.mpr ⟨failed, noSignal, judged, spared, tellable _ _, allowed⟩
    simp only [Job.report?, ruling, Ruling.raised?, Option.some.injEq, exists_eq', and_self]
  | false =>
    have ruling : second.ruling (second.stageAt start state index) = .timedOut raised fault :=
      ruling_eq_iff.mpr ⟨failed, noSignal, judged, spared, tellable _ _, allowed⟩
    simp only [Job.report?, ruling, Ruling.raised?, Option.some.injEq, exists_eq', and_self]

variable (same : second.ruling (second.stageAt start state index) =
  first.ruling (first.stageAt start state index))

include same

theorem Loosened.next :
    (first.stageAt start state (index + 1)).Beside (second.stageAt start state (index + 1)) := by
  rw [stageAt_succ, stageAt_succ]
  constructor
  · rw [index_next, index_next, beside.index]
  all_goals
    simp only [Job.next, same, loosened.triedAt beside, loosened.judgedAt beside,
      loosened.tried beside, loosened.judgement beside, beside.retry, loosened.clock,
      loosened.delay]

theorem Loosened.roundNotes :
    outline (second.roundNotes (second.stageAt start state index)) =
      outline (first.roundNotes (first.stageAt start state index)) := by
  have reported : second.report? (second.stageAt start state index) =
      first.report? (first.stageAt start state index) := by
    simp only [Job.report?, same, beside.retry, loosened.delay, loosened.entity]
  simp only [Job.roundNotes, same, reported, loosened.judgedAt beside]
  cases (first.ruling (first.stageAt start state index)).raised? with
  | none => exact loosened.attemptNotes beside
  | some raised =>
    dsimp only
    rw [outline_append, outline_append, loosened.judgedNotes beside]

end Runs

/-- Up to a round that is cut short both runs stand at the same stages, but for the deadline. -/
theorem Loosened.stageAt (loosened : Loosened first second start)
    (starts : second.starts start = true) {index : Nat}
    (free : ∀ earlier < index,
      (first.ruling (first.stageAt start state earlier)).isCutShort = false) :
    (first.stageAt start state index).Beside (second.stageAt start state index) := by
  induction index with
  | zero => exact ⟨rfl, rfl, rfl, rfl⟩
  | succ index ih =>
    have beside := ih fun earlier before => free earlier (by omega)
    exact loosened.next beside (loosened.ruling beside starts (free index (by omega)))

section Accounts

variable {last : Nat} (loosened : Loosened first second start)
variable (account : first.Account start state last) (starts : second.starts start = true)

include loosened account starts

theorem Loosened.beside {index : Nat} (within : index ≤ last) :
    (first.stageAt start state index).Beside (second.stageAt start state index) :=
  loosened.stageAt starts fun earlier before =>
    Ruling.isCutShort_of_goesOn (account.goesOn earlier (by omega))

theorem Loosened.earlier {index : Nat} (before : index < last) :
    second.ruling (second.stageAt start state index) =
      first.ruling (first.stageAt start state index) :=
  loosened.ruling (loosened.beside account starts (Nat.le_of_lt before)) starts
    (Ruling.isCutShort_of_goesOn (account.goesOn index before))

theorem Loosened.reached {index : Nat} (within : index ≤ last) :
    second.Reached start state index := by
  refine ⟨starts, fun earlier before => ?_⟩
  rw [loosened.earlier account starts (by omega)]
  exact account.goesOn earlier (by omega)

/-- The run under looser limits makes all the attempts of the first one. -/
theorem Loosened.last_le {more : Nat} (later : second.Account start state more) : last ≤ more := by
  by_cases before : more < last
  · have goesOn := (loosened.reached account starts (Nat.le_refl last)).goesOn more before
    have spent := (later.overrun goesOn).1
    have within := account.within
    have fewer := UInt32.le_iff_toNat_le.mp loosened.retries
    omega
  · omega

theorem Loosened.earlierNotes :
    outline ((List.range last).flatMap fun index =>
        second.roundNotes (second.stageAt start state index)) =
      outline ((List.range last).flatMap fun index =>
        first.roundNotes (first.stageAt start state index)) := by
  rw [outline_flatMap, outline_flatMap]
  refine List.flatMap_congr fun index member => ?_
  have before : index < last := List.mem_range.mp member
  exact loosened.roundNotes (loosened.beside account starts (Nat.le_of_lt before))
    (loosened.earlier account starts before)

/-- What a run under looser limits leaves: the notes of the earlier rounds of the first one, those
of the round in which the first one ends, and whatever comes later. -/
theorem Loosened.outline_run {more : Nat} (later : second.Account start state more) :
    ∃ rest, outline (second.run start state).notes =
      outline ((List.range last).flatMap fun index =>
        first.roundNotes (first.stageAt start state index)) ++
        (outline (second.roundNotes (second.stageAt start state last)) ++ rest) := by
  obtain ⟨extra, rfl⟩ := Nat.exists_eq_add_of_le (loosened.last_le account starts later)
  have rest : List.range (last + extra + 1) =
      List.range last ++ last :: (List.range extra).map (last + 1 + ·) := by
    rw [show last + extra + 1 = last + 1 + extra by omega, List.range_add, List.range_succ,
      List.append_assoc, List.singleton_append]
  rw [later.notes, rest, List.flatMap_append, List.flatMap_cons, outline_append, outline_append,
    loosened.earlierNotes account starts]
  exact ⟨_, rfl⟩

theorem Loosened.unlimited
    (same : second.ruling (second.stageAt start state last) =
      first.ruling (first.stageAt start state last))
    {ending : Ending α}
    (ends : (first.ruling (first.stageAt start state last)).ending? = some ending) :
    second.Account start state last ∧
      (second.run start state).value = (first.run start state).value ∧
      (second.run start state).took = (first.run start state).took ∧
      outline (second.run start state).notes = outline (first.run start state).notes ∧
      (second.run start state).state = (first.run start state).state := by
  have beside := loosened.beside account starts (Nat.le_refl last)
  have after := loosened.next beside same
  obtain ⟨more, later⟩ := account_of_starts starts state
  have within := loosened.last_le account starts later
  have final : last = more := later.eq_last within ((congrArg Ruling.ending? same).trans ends)
  subst final
  refine ⟨later, ?_, ?_, ?_, ?_⟩
  · rw [account.value, later.value, same]
  · have firstEnd := account.ended
    have secondEnd := later.ended
    rw [after.instant] at secondEnd
    omega
  · rw [account.notes, later.notes, List.range_succ, List.flatMap_append, List.flatMap_append,
      List.flatMap_singleton, List.flatMap_singleton, outline_append, outline_append,
      loosened.earlierNotes account starts, loosened.roundNotes beside same]
  · rw [account.state, later.state, after.state]

/-- A last round without a report comes to the same, also if it breaks the run off, as long as there
still is a deadline then. -/
theorem Loosened.ruling_of_unreported (few : first.policy.retries.toNat < 2 ^ 32 - 1)
    (unreported : first.report? (first.stageAt start state last) = none)
    (either : (first.run start state).value ≠ none ∨ second.terms.deadline? start ≠ none) :
    second.ruling (second.stageAt start state last) =
      first.ruling (first.stageAt start state last) := by
  have beside := loosened.beside account starts (Nat.le_refl last)
  by_cases without : (first.run start state).value = none
  · obtain ⟨raised, fault, broken⟩ := account.brokenOff few without
    have bounded := either.resolve_left (not_not.mpr without)
    obtain ⟨limit, deadline⟩ := Option.ne_none_iff_exists'.mp bounded
    rw [broken, loosened.ruling_of_brokenOff beside broken deadline]
  · refine loosened.ruling beside starts (isCutShort_of_unreported unreported ?_)
    intro raised fault broken
    apply without
    rw [account.value, broken]
    rfl

theorem Loosened.notesBefore {more : Nat} {raised : Fault}
    (later : second.Account start state more)
    (failed : (first.ruling (first.stageAt start state last)).raised? = some raised) :
    outline (((List.range last).flatMap fun index =>
        first.roundNotes (first.stageAt start state index)) ++
          first.judgedNotes (first.stageAt start state last) raised) <+:
      outline (second.run start state).notes := by
  have beside := loosened.beside account starts (Nat.le_refl last)
  have again : (second.ruling (second.stageAt start state last)).raised? = some raised := by
    rw [raised?_ruling_eq_some_iff, loosened.tried beside]
    exact raised?_ruling_eq_some_iff.mp failed
  obtain ⟨rest, notes⟩ := loosened.outline_run account starts later
  rw [notes, outline_append, List.prefix_append_right_inj, Job.roundNotes, again, outline_append,
    loosened.judgedNotes beside, List.append_assoc]
  exact List.prefix_append _ _

/-- Without a deadline the run goes on with a report where the first one breaks off. -/
theorem Loosened.notesBeyond {raised fault : Fault}
    (broken : first.ruling (first.stageAt start state last) = .brokenOff raised fault)
    (without : second.terms.deadline? start = none) :
    ∃ instant report rest, outline (second.run start state).notes =
      outline (first.run start state).notes ++ ⟨instant, .event report⟩ :: rest := by
  have beside := loosened.beside account starts (Nat.le_refl last)
  obtain ⟨_, later⟩ := account_of_starts starts state
  obtain ⟨failed, report, reported⟩ := loosened.report_of_brokenOff beside broken without
  obtain ⟨rest, notes⟩ := loosened.outline_run account starts later
  have silent : first.roundNotes (first.stageAt start state last) =
      first.judgedNotes (first.stageAt start state last) raised := by
    simp only [Job.roundNotes, report?, broken, Ruling.raised?, Option.toList_none, List.map_nil,
      List.append_nil]
  refine ⟨second.judgedAt (second.stageAt start state last) raised, report, rest, ?_⟩
  rw [notes, account.notes, List.range_succ, List.flatMap_append, List.flatMap_singleton, silent,
    outline_append, Job.roundNotes, failed]
  simp only [reported, Option.toList_some, List.map_cons, List.map_nil, outline_append,
    outline_cons, outline_nil, loosened.judgedNotes beside, Note.numbered, List.append_assoc,
    List.cons_append, List.nil_append]

end Accounts

/-- What a run, whose last attempt is made in a certain round, has in common with the run under
looser limits. -/
structure Outlived (first second : Job σ α) (start : Nat) (state : σ) (last : Nat) : Prop where
  account : first.Account start state last
  -- Every attempt is made again, at the same instant and in the same state, and it comes to the
  -- same.
  begun : ∀ index ≤ last, second.Reached start state index ∧
    (first.stageAt start state index).Beside (second.stageAt start state index) ∧
    second.tried (second.stageAt start state index) = first.tried (first.stageAt start state index)
  told : ∀ index ≤ last,
    let earlier := first.told (first.stageAt start state index)
    let later := second.told (second.stageAt start state index)
    later.attempt = earlier.attempt ∧
      (second.terms.recallsFault = first.terms.recallsFault → later.lastFault = earlier.lastFault)
  -- A run that its limits do not end comes to the same, with the same events at the same instants.
  -- If it breaks off, so does the other one as long as it has a deadline.
  same : first.report? (first.stageAt start state last) = none →
    (first.run start state).value ≠ none ∨ second.terms.deadline? start ≠ none →
    second.Account start state last ∧
    (second.run start state).value = (first.run start state).value ∧
    (second.run start state).took = (first.run start state).took ∧
    outline (second.run start state).notes = outline (first.run start state).notes ∧
    eventsOf (second.run start state).notes = eventsOf (first.run start state).notes ∧
    (second.run start state).state = (first.run start state).state
  -- Of a run that its limits end, all but the report of that end is in the other run too, which
  -- makes no fewer attempts.
  cutShort : ∀ report, first.report? (first.stageAt start state last) = some report →
    (∃ fault, report = .retryExhausted first.entity (first.stageAt start state last).retry fault ∨
      report = .retryTimedOut first.entity fault) ∧
    (∃ more ≥ last, second.Account start state more) ∧
    ∃ before instant, (first.run start state).notes = before ++ [⟨instant, .event report⟩] ∧
      outline before <+: outline (second.run start state).notes ∧
      eventsOf before <+: eventsOf (second.run start state).notes
  -- A run that breaks off reports nothing. Without a deadline the other one has more to report, and
  -- more to leave.
  brokenOff : (first.run start state).value = none →
    first.report? (first.stageAt start state last) = none ∧
      (second.terms.deadline? start = none →
        ∃ instant report rest, outline (second.run start state).notes =
          outline (first.run start state).notes ++ ⟨instant, .event report⟩ :: rest)

/-- Looser limits never change what came to an end by itself, and what they end later goes the same
way until then, if both runs start. Where the first one breaks off, the other one does so too unless
it has no deadline at all. -/
theorem run_loosened (loosened : Loosened first second start)
    (few : second.policy.retries.toNat < 2 ^ 32 - 1) (state : σ) :
    first.Unstarted start state ∨ second.Unstarted start state ∨
      ∃ last, Outlived first second start state last := by
  refine (first.run_account start state).imp_right fun ⟨last, account⟩ => ?_
  by_cases starts : second.starts start = true
  swap
  · exact .inl (unstarted_of_not_starts starts state)
  obtain ⟨more, later⟩ := account_of_starts starts state
  have fewer := UInt32.le_iff_toNat_le.mp loosened.retries
  have small : first.policy.retries.toNat < 2 ^ 32 - 1 := by omega
  obtain ⟨ending, ends⟩ := account.over small
  refine .inr ⟨last, account, ?_, ?_, ?_, ?_, ?_⟩
  · intro index within
    have beside := loosened.beside account starts within
    exact ⟨loosened.reached account starts within, beside, loosened.tried beside⟩
  · intro index within earlier later
    have beside := loosened.beside account starts within
    refine ⟨(told_beside beside).symm, fun alike => ?_⟩
    simp only [earlier, later, Job.told, context, beside.last, alike]
  · intro unreported either
    have same := loosened.ruling_of_unreported account starts small unreported either
    obtain ⟨again, value, took, notes, left⟩ := loosened.unlimited account starts same ends
    refine ⟨again, value, took, notes, ?_, left⟩
    rw [← eventsOf_outline, notes, eventsOf_outline]
  · intro report reported
    obtain ⟨raised, failed, notes⟩ := roundNotes_of_report reported
    have before := loosened.notesBefore account starts later failed
    refine ⟨eq_of_report ends reported, ⟨more, loosened.last_le account starts later, later⟩, _,
      first.judgedAt (first.stageAt start state last) raised, ?_, before, ?_⟩
    · rw [account.notes, List.range_succ, List.flatMap_append, List.flatMap_singleton, notes,
        List.append_assoc]
    · rw [← eventsOf_outline, ← eventsOf_outline (second.run start state).notes]
      exact before.filterMap _
  · intro without
    obtain ⟨raised, fault, broken⟩ := account.brokenOff small without
    refine ⟨?_, loosened.notesBeyond account starts broken⟩
    rw [report?, broken]

/-- One attempt and one second for it. -/
def pressed : Job Rehearsal Json :=
  rehearsal ⟨0, .fixed, .zero, .zero⟩ "orders" .byFlag (.bounded (some 1000000000))

/-- The same with three retries and as much time as it takes. -/
def patient : Job Rehearsal Json :=
  rehearsal ⟨3, .fixed, .zero, .zero⟩ "orders" .byFlag {}

/-- Two attempts time out, and the next one succeeds. -/
def slowStart : Rehearsal :=
  { turns := [⟨⟨[], 5000000, .error (.operationTimeout "slow" none)⟩, 2⟩] }

theorem pressed_loosened :
    pressed.Loosened patient 0 ∧ patient.policy.retries.toNat < 2 ^ 32 - 1 ∧
      (pressed.run 0 slowStart).value =
        some (.error (.withRemediation (.operationTimeout "slow" none))) ∧
      (patient.run 0 slowStart).value = some (.ok .null) ∧
      ∃ last, pressed.Outlived patient 0 slowStart last := by
  have loosened : pressed.Loosened patient 0 := by
    refine ⟨rfl, rfl, rfl, rfl, rfl, rfl, fun _ _ _ => rfl, by decide, ?_⟩
    intro limit deadline
    cases deadline
  have outlived := (run_loosened loosened (by decide) slowStart).resolve_left (not_unstarted rfl)
  exact ⟨loosened, by decide, rfl, rfl, outlived.resolve_left (not_unstarted rfl)⟩

/-- As long a wait as in `overstretched`, and as much time as it takes. -/
def unhurried : Job Rehearsal Json :=
  { overstretched with terms := {} }

/-- The run with a deadline neither uses up its retries nor reports that its time is up, and yet it
comes to nothing where the other one goes on to a result. -/
theorem overstretched_unhurried :
    overstretched.Loosened unhurried 0 ∧ unhurried.policy.retries.toNat < 2 ^ 32 - 1 ∧
      eventsOf (overstretched.run 0 busyOnce).notes = [] ∧
      (overstretched.run 0 busyOnce).value = none ∧
      (unhurried.run 0 busyOnce).value.isSome = true := by
  have loosened : overstretched.Loosened unhurried 0 := by
    refine ⟨rfl, rfl, rfl, rfl, rfl, rfl, fun _ _ _ => rfl, UInt32.le_refl _, ?_⟩
    intro limit deadline
    cases deadline
  have without : (overstretched.run 0 busyOnce).value.isNone = true := by decide +kernel
  exact ⟨loosened, by decide, by decide +kernel, Option.isNone_iff_eq_none.mp without,
    by decide +kernel⟩

end Job
end Retry
end BusLink
