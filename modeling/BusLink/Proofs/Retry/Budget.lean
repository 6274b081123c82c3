import BusLink.Proofs.Retry.Rounds

set_option autoImplicit false

namespace BusLink.Retry

theorem Terms.deadline?_of_budget {terms : Terms} {budget : Nat}
    (required : terms.requiresBudget = true) (given : terms.budget = some budget)
    (positive : 0 < budget) (start : Nat) : terms.deadline? start = some (start + budget) := by
  simp only [deadline?, required, given]
  rw [if_neg (by omega)]

theorem Terms.deadline?_of_none {terms : Terms}
    (without : terms.requiresBudget = false ∨ terms.budget = none ∨ terms.budget = some 0)
    (start : Nat) : terms.deadline? start = none := by
  obtain ⟨budget, requires, recalls⟩ := terms
  rcases without with free | none | empty
  · simp only at free
    simp only [deadline?, free]
  · simp only at none
    cases requires <;> simp only [deadline?, none]
  · simp only at empty
    cases requires <;> simp only [deadline?, empty, if_true]

namespace Job

variable {σ α : Type} {job : Job σ α} {stage : Stage σ} {start : Nat} {state : σ}

/-- A round is reached if the run starts and each round before it is followed by another one. -/
structure Reached (job : Job σ α) (start : Nat) (state : σ) (index : Nat) : Prop where
  starts : job.starts start = true
  goesOn : ∀ earlier < index, (job.ruling (job.stageAt start state earlier)).ending? = none

theorem reached_zero (starts : job.starts start = true) : job.Reached start state 0 :=
  ⟨starts, fun _ before => absurd before (Nat.not_lt_zero _)⟩

theorem Account.reached {last : Nat} (account : job.Account start state last) {index : Nat}
    (within : index ≤ last) : job.Reached start state index :=
  ⟨account.starts, fun earlier before => account.goesOn earlier (by omega)⟩

theorem attempt_mem_roundNotes (job : Job σ α) (stage : Stage σ) :
    ⟨stage.instant, .attempt (job.told stage)⟩ ∈ job.roundNotes stage := by
  unfold roundNotes
  cases (job.ruling stage).raised? with
  | none => exact List.mem_cons_self
  | some raised => exact List.mem_append_left _ (List.mem_append_left _ List.mem_cons_self)

theorem Account.attempt_mem {last : Nat} (account : job.Account start state last) {index : Nat}
    (within : index ≤ last) :
    ⟨(job.stageAt start state index).instant,
      .attempt (job.told (job.stageAt start state index))⟩ ∈ (job.run start state).notes := by
  rw [account.notes, List.mem_flatMap]
  exact ⟨index, List.mem_range.mpr (by omega), job.attempt_mem_roundNotes _⟩

theorem remaining_told (job : Job σ α) (start : Nat) (state : σ) (index : Nat) :
    (job.told (job.stageAt start state index)).remaining =
      (job.terms.deadline? start).map (· - (job.stageAt start state index).instant) := by
  simp only [told, context, deadline_stageAt]

/-- No round starts before an earlier one. -/
theorem instant_mono (job : Job σ α) (start : Nat) (state : σ) {earlier later : Nat}
    (ordered : earlier ≤ later) :
    (job.stageAt start state earlier).instant ≤ (job.stageAt start state later).instant := by
  induction ordered with
  | refl => exact Nat.le_refl _
  | step _ ih => exact Nat.le_trans ih (job.le_next _)

/-- A round that follows another one starts by the tick at or after the deadline. -/
theorem instant_next_le {limit : Nat} (deadline : stage.deadline = some limit)
    (goesOn : (job.ruling stage).ending? = none) :
    (job.next stage).instant ≤ Clock.nextTick limit := by
  obtain ⟨raised, fault, ruling⟩ := (Ruling.ending?_eq_none_iff _).mp goesOn
  obtain ⟨_, _, _, _, _, allowed⟩ := ruling_eq_iff.mp ruling
  have fits : job.judgedAt stage raised + job.policy.delay stage.retry ≤ limit := by
    rw [mayWait, Bool.and_eq_true, deadline] at allowed
    simpa using allowed.2
  simp only [next, ruling]
  exact job.clock.wake_le_nextTick fits

theorem instant_stageAt_le {limit index : Nat} (deadline : job.terms.deadline? start = some limit)
    (reached : job.Reached start state (index + 1)) :
    (job.stageAt start state (index + 1)).instant ≤ Clock.nextTick limit := by
  rw [stageAt_succ]
  refine instant_next_le ?_ (reached.goesOn index (Nat.lt_succ_self index))
  rw [deadline_stageAt, deadline]

/-- What the attempts of a run with a deadline are told, and when they start. -/
structure Limited (job : Job σ α) (start : Nat) (state : σ) (limit : Nat) : Prop where
  -- An attempt is told what is left until the deadline when it starts.
  told : ∀ index, job.Reached start state index →
    (job.told (job.stageAt start state index)).remaining =
      some (limit - (job.stageAt start state index).instant)
  -- No attempt is told more than an earlier one.
  falls : ∀ earlier later, earlier ≤ later → job.Reached start state later → ∃ more less,
    (job.told (job.stageAt start state earlier)).remaining = some more ∧
      (job.told (job.stageAt start state later)).remaining = some less ∧ less ≤ more
  inTime : ∀ index, job.Reached start state (index + 1) →
    (job.stageAt start state (index + 1)).instant ≤ Clock.nextTick limit
  onTick : Clock.millisecond ∣ limit → ∀ index, job.Reached start state (index + 1) →
    (job.stageAt start state (index + 1)).instant ≤ limit

theorem limited_of_deadline {limit : Nat} (deadline : job.terms.deadline? start = some limit) :
    job.Limited start state limit := by
  have told (index : Nat) : (job.told (job.stageAt start state index)).remaining =
      some (limit - (job.stageAt start state index).instant) := by
    rw [remaining_told, deadline, Option.map_some]
  constructor
  · exact fun index _ => told index
  · intro earlier later ordered _
    have ahead := job.instant_mono start state ordered
    exact ⟨_, _, told earlier, told later, by omega⟩
  · exact fun index reached => instant_stageAt_le deadline reached
  · intro whole index reached
    have early := instant_stageAt_le deadline reached
    rwa [Clock.nextTick_of_dvd limit whole] at early

/-- What a run without a deadline is like. -/
structure Unlimited (job : Job σ α) (start : Nat) (state : σ) : Prop where
  untold : ∀ index, job.Reached start state index →
    (job.told (job.stageAt start state index)).remaining = none
  -- A wait is refused by the policy alone.
  refused : ∀ index raised fault, job.Reached start state index →
    job.ruling (job.stageAt start state index) = .timedOut raised fault →
    job.policy.admits (job.stageAt start state index).retry = false
  unbroken : ∀ index raised fault, job.Reached start state index →
    job.ruling (job.stageAt start state index) ≠ .brokenOff raised fault

theorem unlimited_of_none (without : job.terms.deadline? start = none) :
    job.Unlimited start state := by
  constructor
  · intro index _
    rw [remaining_told, without, Option.map_none]
  · intro index raised fault _ ruling
    obtain ⟨_, _, _, _, _, refused⟩ := ruling_eq_iff.mp ruling
    rw [mayWait, deadline_stageAt, without] at refused
    simpa using refused
  · intro index raised fault _ ruling
    obtain ⟨_, _, _, _, beyond⟩ := ruling_eq_iff.mp ruling
    rw [overflows, deadline_stageAt, without] at beyond
    cases beyond

/-- How the budget of a run is kept to. -/
structure Budgeted (job : Job σ α) (start : Nat) (state : σ) : Prop where
  -- The attempts up to a last one are made, each at the start of its round, unless none is.
  made : job.Unstarted start state ∨ ∃ last, job.Account start state last ∧ ∀ index ≤ last,
    job.Reached start state index ∧
      ⟨(job.stageAt start state index).instant,
        .attempt (job.told (job.stageAt start state index))⟩ ∈ (job.run start state).notes
  limited : ∀ budget, job.terms.requiresBudget = true → job.terms.budget = some budget →
    0 < budget →
    -- Without a first attempt there is none at all: the deadline cannot be told.
    (job.clock.latest < start + budget ∧ job.Unstarted start state ∨
      job.Reached start state 0 ∧
        (job.told (job.stageAt start state 0)).remaining = some budget) ∧
      job.Limited start state (start + budget)
  unlimited :
    job.terms.requiresBudget = false ∨ job.terms.budget = none ∨ job.terms.budget = some 0 →
    job.Reached start state 0 ∧ job.Unlimited start state

end Job
end BusLink.Retry
