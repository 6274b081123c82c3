import BusLink.Proofs.Retry.Budget
import BusLink.Rehearsal

set_option autoImplicit false

namespace BusLink.Retry.Job

variable {σ α : Type} {job : Job σ α} {stage : Stage σ} {start : Nat} {state : σ}

/-- The count goes up after a round: its attempt failed with a fault that is worth a retry. -/
def CountsUp (job : Job σ α) (stage : Stage σ) : Prop :=
  ∃ raised fault, (job.tried stage).value = .error raised ∧ raised.isAbort = false ∧
    (job.judgement stage raised).value = .ok fault

/-- Every time the count goes up, its word has room for one more. -/
def HasRoom (job : Job σ α) (start : Nat) (state : σ) : Prop :=
  ∀ index, job.Reached start state index → job.CountsUp (job.stageAt start state index) →
    (job.told (job.stageAt start state index)).attempt.toNat + 1 < 2 ^ 32

/-- A run that makes no attempts but the first one and the retries, and comes to an end. -/
structure Ends (job : Job σ α) (start : Nat) (state : σ) : Prop where
  attempts : ∀ index, job.Reached start state index → index ≤ job.policy.retries.toNat
  -- With however many more rounds, the end is the same.
  ending : ∃ ending, ∀ count > job.policy.retries.toNat,
    (job.runFor count start state).value = some ending

/-- With as many retries as the word can count, the attempt with the largest number is made and
fails with a fault that is worth a retry. -/
structure RunsOver (job : Job σ α) (start : Nat) (state : σ) : Prop where
  most : job.policy.retries.toNat + 1 = 2 ^ 32
  reached : job.Reached start state (2 ^ 32 - 1)
  countsUp : job.CountsUp (job.stageAt start state (2 ^ 32 - 1))

theorem countsUp_of_goesOn (goesOn : (job.ruling stage).ending? = none) : job.CountsUp stage := by
  obtain ⟨raised, fault, ruling⟩ := (Ruling.ending?_eq_none_iff _).mp goesOn
  obtain ⟨failed, noSignal, judged, _⟩ := ruling_eq_iff.mp ruling
  exact ⟨raised, fault, failed, noSignal, judged⟩

theorem Reached.le {index : Nat} (reached : job.Reached start state index) {last : Nat}
    {ending : Ending α}
    (ends : (job.ruling (job.stageAt start state last)).ending? = some ending) : index ≤ last := by
  by_cases within : index ≤ last
  · exact within
  · have goesOn := reached.goesOn last (Nat.lt_of_not_le within)
    cases goesOn.symm.trans ends

theorem Reached.succ {index : Nat} (reached : job.Reached start state index)
    (goesOn : (job.ruling (job.stageAt start state index)).ending? = none) :
    job.Reached start state (index + 1) := by
  refine ⟨reached.starts, fun earlier before => ?_⟩
  rcases Nat.lt_succ_iff_lt_or_eq.mp before with before | rfl
  · exact reached.goesOn earlier before
  · exact goesOn

/-- Until it runs over, the count is the number of attempts that came before. -/
theorem toNat_attempt (job : Job σ α) (start : Nat) (state : σ) {index : Nat}
    (small : index < 2 ^ 32) :
    (job.told (job.stageAt start state index)).attempt.toNat = index := by
  simp only [told, context, index_stageAt]
  exact UInt32.toNat_ofNat_of_lt' small

/-- The attempt after the one with the largest number has the number zero again. -/
theorem attempt_of_full (job : Job σ α) (start : Nat) (state : σ) :
    (job.told (job.stageAt start state (2 ^ 32))).attempt = 0 := by
  simp only [told, context, index_stageAt]
  decide

theorem Account.value_runFor {last : Nat} (account : job.Account start state last)
    {ending : Ending α}
    (ends : (job.ruling (job.stageAt start state last)).ending? = some ending) {count : Nat}
    (enough : last < count) : (job.runFor count start state).value = some ending := by
  obtain ⟨more, rfl⟩ := Nat.exists_eq_add_of_lt enough
  obtain ⟨final, within, goesOn, unfinished, course⟩ :=
    job.rounds_account (job.stageAt start state 0) (last + more)
  -- The stages after the first one are those of the run.
  have same : job.later (job.stageAt start state 0) final = job.stageAt start state final := rfl
  have reached : job.Reached start state final := ⟨account.starts, goesOn⟩
  have notLater : final ≤ last := reached.le ends
  have notEarlier : last ≤ final := by
    by_cases before : final < last
    · have full := unfinished (account.goesOn final before)
      omega
    · omega
  obtain rfl : final = last := Nat.le_antisymm notLater notEarlier
  have value := congrArg Course.value course
  rw [same, ends] at value
  rw [runFor_of_starts account.starts]
  exact value

theorem Account.ends_of_ending {last : Nat} (account : job.Account start state last)
    {ending : Ending α}
    (ends : (job.ruling (job.stageAt start state last)).ending? = some ending) :
    job.Ends start state where
  attempts _ reached := Nat.le_trans (reached.le ends) account.within
  ending := ⟨ending, fun _ enough =>
    account.value_runFor ends (Nat.lt_of_le_of_lt account.within enough)⟩

theorem ends_of_not_starts (beyond : ¬ job.starts start = true) : job.Ends start state where
  attempts _ reached := absurd reached.starts beyond
  ending := ⟨.brokenOff,
    fun count _ => congrArg Course.value (runFor_of_not_starts beyond count state)⟩

theorem hasRoom_iff : job.HasRoom start state ↔ ¬ job.RunsOver start state := by
  constructor
  · intro hasRoom ran
    have room := hasRoom _ ran.reached ran.countsUp
    rw [toNat_attempt job start state (by omega)] at room
    omega
  · intro fits index reached countsUp
    obtain ⟨last, account⟩ := account_of_starts reached.starts state
    have size := job.policy.retries.toNat_lt
    have within : index ≤ job.policy.retries.toNat := by
      cases ends : (job.ruling (job.stageAt start state last)).ending? with
      | some ending => exact Nat.le_trans (reached.le ends) account.within
      | none =>
        obtain ⟨final, full⟩ := account.overrun ends
        have made : job.Reached start state last := account.reached (Nat.le_refl last)
        have largest : last = 2 ^ 32 - 1 := by omega
        rw [largest] at made ends
        exact absurd ⟨full, made, countsUp_of_goesOn ends⟩ fits
    rw [toNat_attempt job start state (by omega)]
    by_cases full : index + 1 < 2 ^ 32
    · exact full
    · obtain rfl : index = 2 ^ 32 - 1 := by omega
      exact absurd ⟨by omega, reached, countsUp⟩ fits

theorem ends_iff : job.Ends start state ↔
    ¬ (job.policy.retries.toNat + 1 = 2 ^ 32 ∧ job.Reached start state (2 ^ 32)) := by
  constructor
  · rintro ends ⟨most, reached⟩
    have bound := ends.attempts _ reached
    omega
  · intro fits
    by_cases starts : job.starts start = true
    · obtain ⟨last, account⟩ := account_of_starts starts state
      cases ends : (job.ruling (job.stageAt start state last)).ending? with
      | some ending => exact account.ends_of_ending ends
      | none =>
        obtain ⟨final, full⟩ := account.overrun ends
        have reached : job.Reached start state (last + 1) :=
          (account.reached (Nat.le_refl last)).succ ends
        rw [show last + 1 = 2 ^ 32 by omega] at reached
        exact absurd ⟨full, reached⟩ fits
    · exact ends_of_not_starts starts

/-- The count of a run keeps within its word unless it runs over with the largest number of
retries, and the run makes no attempts beyond its retries and ends unless the count starts over. -/
theorem run_counted (job : Job σ α) (start : Nat) (state : σ) :
    (job.HasRoom start state ↔ ¬ job.RunsOver start state) ∧
      (job.Ends start state ↔
        ¬ (job.policy.retries.toNat + 1 = 2 ^ 32 ∧ job.Reached start state (2 ^ 32))) ∧
      ∀ index < 2 ^ 32, (job.told (job.stageAt start state index)).attempt.toNat = index :=
  ⟨hasRoom_iff, ends_iff, fun _ small => toNat_attempt job start state small⟩

/-- As many retries as the word can count, without a wait in between. -/
def mostRetries : Job Rehearsal Json :=
  rehearsal ⟨4294967295, .fixed, .zero, .zero⟩ "orders" .always {}

def busyFor : Nat → Rehearsal
  | 0 => {}
  | count + 1 => { turns := [⟨⟨[], 0, .error (.serverBusy "busy")⟩, count + 1⟩] }

theorem attempt_busyFor (context : Context) (now count : Nat) :
    mostRetries.attempt context now (busyFor (count + 1)) =
      ⟨.error (.serverBusy "busy"), 0, [], busyFor count⟩ := by
  cases count <;>
    simp [mostRetries, rehearsal, busyFor, Rehearsal.nextTurn, Rehearsal.finish, Cue.take,
      Course.after]

theorem next_busyFor {stage : Stage Rehearsal} {count : Nat} (free : stage.deadline = none)
    (busy : stage.state = busyFor (count + 1)) :
    (mostRetries.ruling stage).ending? = none ∧ (mostRetries.next stage).state = busyFor count := by
  have tried : mostRetries.tried stage = ⟨.error (.serverBusy "busy"), 0, [], busyFor count⟩ := by
    rw [tried, busy, attempt_busyFor]
  have judged : mostRetries.judgement stage (.serverBusy "busy") =
      ⟨.ok (.serverBusy "busy"), 0, [], busyFor count⟩ := by
    rw [judgement, tried]
    rfl
  have left : ¬ mostRetries.policy.retries < stage.retry := by
    have bound := stage.retry.toNat_lt
    rw [UInt32.lt_iff_toNat_lt, show mostRetries.policy.retries.toNat = 4294967295 from rfl]
    omega
  have ruling : mostRetries.ruling stage = .goesOn (.serverBusy "busy") (.serverBusy "busy") := by
    refine ruling_eq_iff.mpr ⟨by rw [tried], rfl, by rw [judged], left, ?_, ?_⟩
    · rw [overflows, free]
      rfl
    · rw [mayWait, free]
      rfl
  refine ⟨congrArg Ruling.ending? ruling, ?_⟩
  simp only [next, ruling, Ruling.raised?, judged]

theorem reached_busyFor {count index : Nat} (within : index ≤ count) :
    mostRetries.Reached 0 (busyFor count) index ∧
      (mostRetries.stageAt 0 (busyFor count) index).state = busyFor (count - index) := by
  induction index with
  | zero => exact ⟨reached_zero rfl, rfl⟩
  | succ index ih =>
    obtain ⟨reached, state⟩ := ih (Nat.le_of_succ_le within)
    rw [show count - index = count - (index + 1) + 1 by omega] at state
    have free := mostRetries.deadline_stageAt 0 (busyFor count) index
    obtain ⟨goesOn, left⟩ := next_busyFor free state
    exact ⟨reached.succ goesOn, left⟩

/-- A service that is busy for 2^32 attempts makes the count run over: there is one attempt more
than the retries allow, and it has the number zero again. -/
theorem runsOver_busy :
    mostRetries.RunsOver 0 (busyFor (2 ^ 32)) ∧ ¬ mostRetries.HasRoom 0 (busyFor (2 ^ 32)) ∧
      ¬ mostRetries.Ends 0 (busyFor (2 ^ 32)) ∧
      mostRetries.Reached 0 (busyFor (2 ^ 32)) (2 ^ 32) ∧
      (mostRetries.told (mostRetries.stageAt 0 (busyFor (2 ^ 32)) (2 ^ 32))).attempt = 0 := by
  have most : mostRetries.policy.retries.toNat + 1 = 2 ^ 32 := rfl
  have all := (reached_busyFor (Nat.le_refl (2 ^ 32))).1
  have last := (reached_busyFor (Nat.sub_le (2 ^ 32) 1)).1
  have ran : mostRetries.RunsOver 0 (busyFor (2 ^ 32)) :=
    ⟨most, last, countsUp_of_goesOn (all.goesOn (2 ^ 32 - 1) (by omega))⟩
  exact ⟨ran, fun room => hasRoom_iff.mp room ran, fun ends => ends_iff.mp ends ⟨most, all⟩, all,
    attempt_of_full _ _ _⟩

end BusLink.Retry.Job
