import BusLink.Proofs.Retry.Backoff
import BusLink.Proofs.Retry.Counting

set_option autoImplicit false

namespace BusLink

def Event.delay? : Event → Option Nat
  | .retrying _ _ delay _ => some delay
  | _ => none

namespace Binary64

/-- The number of seconds from which on a wait is no delay at all. -/
def endless : Binary64 := .finite false (Nat.pow 2 64 * one)

theorem extent_endless : endless.extent = ((Nat.pow 2 64 * one : Nat) : ℕ∞) := rfl

theorem nanoseconds?_of_endless_le {value : Binary64} (notBelow : value.orZero = value)
    (long : endless.le value = true) : value.nanoseconds? = none := by
  have extent : endless.extent ≤ value.extent := by
    rwa [← orZero_le_orZero_iff, notBelow]
  rcases orZero_eq value with ⟨form, _⟩ | ⟨units, form, reach⟩
  · rw [← notBelow, form]
    rfl
  · have beyond : Nat.pow 2 64 * one ≤ units := by
      rw [reach, extent_endless] at extent
      exact ENat.natCast_le_natCast.mp extent
    rw [← notBelow, form, nanoseconds?, if_pos (by simpa using beyond)]

theorem nanoseconds?_mono {left right : Binary64} (leftForm : left.orZero = left)
    (rightForm : right.orZero = right) (ordered : left.le right = true)
    (short : right.isLess endless = true) :
    ∃ less more, left.nanoseconds? = some less ∧ right.nanoseconds? = some more ∧ less ≤ more := by
  have reach : left.extent ≤ right.extent := by
    rwa [← orZero_le_orZero_iff, leftForm, rightForm]
  have limited : right.extent < endless.extent := by
    have form : endless.orZero = endless := rfl
    rw [← rightForm, ← form, isLess_orZero, Bool.not_eq_true'] at short
    rw [← not_le, ← orZero_le_orZero_iff, short]
    exact Bool.false_ne_true
  have spans {value : Binary64} (form : value.orZero = value)
      (below : value.extent < endless.extent) : ∃ units : Nat, value.extent = units ∧
        value.nanoseconds? = some (roundHalfEven (units * 1000000000) one) := by
    rcases orZero_eq value with ⟨_, infinite⟩ | ⟨units, shape, extent⟩
    · rw [infinite] at below
      exact absurd below not_top_lt
    · refine ⟨units, extent, ?_⟩
      have fits : ¬ Nat.pow 2 64 * one ≤ units := by
        rw [extent, extent_endless] at below
        exact Nat.not_le.mpr (ENat.natCast_lt_natCast.mp below)
      rw [← form, shape, nanoseconds?, if_neg (by simpa using fits)]
  obtain ⟨less, leftExtent, leftSpan⟩ := spans leftForm (lt_of_le_of_lt reach limited)
  obtain ⟨more, rightExtent, rightSpan⟩ := spans rightForm limited
  refine ⟨_, _, leftSpan, rightSpan, roundHalfEven_mono ?_ one⟩
  rw [leftExtent, rightExtent] at reach
  exact Nat.mul_le_mul_right _ (ENat.natCast_le_natCast.mp reach)

end Binary64

namespace Retry

namespace Policy

variable {policy : Policy}

theorem delay_of_fixed (constant : policy.mode = .fixed) (first second : UInt32) :
    policy.delay first = policy.delay second := by
  simp only [delay, backoff, unbounded, constant]

/-- A wait that is too long is no delay. -/
theorem delay_of_endless {retry : UInt32}
    (long : Binary64.endless.le (policy.backoff retry) = true) : policy.delay retry = 0 := by
  rw [delay, Binary64.nanoseconds?_of_endless_le (policy.orZero_backoff retry) long]
  rfl

theorem delay_mono {first second : UInt32}
    (ordered : (policy.backoff first).le (policy.backoff second) = true)
    (short : (policy.backoff second).isLess Binary64.endless = true) :
    policy.delay first ≤ policy.delay second := by
  obtain ⟨less, more, left, right, grows⟩ := Binary64.nanoseconds?_mono
    (policy.orZero_backoff first) (policy.orZero_backoff second) ordered short
  rw [delay, delay, left, right]
  exact grows

theorem endless_le_or_isLess (policy : Policy) (retry : UInt32) :
    Binary64.endless.le (policy.backoff retry) = true ∨
      (policy.backoff retry).isLess Binary64.endless = true := by
  rw [← policy.orZero_backoff, show Binary64.endless = Binary64.endless.orZero from rfl,
    Binary64.isLess_orZero]
  cases Binary64.endless.orZero.le _ <;> simp

end Policy

namespace Job

variable {σ α : Type} {job : Job σ α} {stage : Stage σ} {start last : Nat} {state : σ}

/-- The delays that the rounds of a run report, in order. -/
def delays (job : Job σ α) (start : Nat) (state : σ) (last : Nat) : List Nat :=
  (job.reported start state last).filterMap Event.delay?

theorem delay_of_goesOn (goesOn : (job.ruling stage).ending? = none) :
    (job.report? stage).toList.filterMap Event.delay? = [job.policy.delay stage.retry] := by
  obtain ⟨raised, fault, ruling⟩ := (Ruling.ending?_eq_none_iff _).mp goesOn
  simp only [report?, ruling]
  rfl

theorem delay_of_ending {ending : Ending α}
    (ends : (job.ruling stage).ending? = some ending) :
    (job.report? stage).toList.filterMap Event.delay? = [] := by
  unfold report?
  cases ruling : job.ruling stage with
  | success | abort | verdict | exhausted | timedOut | brokenOff => rfl
  | goesOn =>
    rw [ruling] at ends
    cases ends

theorem delays_of_reached {count : Nat} (reached : job.Reached start state count) :
    ((List.range count).flatMap fun index =>
        (job.report? (job.stageAt start state index)).toList).filterMap Event.delay? =
      (List.range count).map fun index => job.policy.delay (.ofNat (index + 1)) := by
  induction count with
  | zero => rfl
  | succ count ih =>
    have earlier : job.Reached start state count :=
      ⟨reached.starts, fun index before => reached.goesOn index (Nat.lt_succ_of_lt before)⟩
    have delay := delay_of_goesOn (reached.goesOn count (Nat.lt_succ_self count))
    rw [Stage.retry, index_stageAt] at delay
    rw [List.range_succ, List.flatMap_append, List.flatMap_singleton, List.filterMap_append,
      ih earlier, delay, List.map_append, List.map_singleton]

theorem Account.delays_eq (account : job.Account start state last) :
    ∃ count ≤ 2 ^ 32, (∀ index ≤ 2 ^ 32, job.Reached start state index ↔ index ≤ count) ∧
      job.delays start state last =
        (List.range count).map fun index => job.policy.delay (.ofNat (index + 1)) := by
  have size := job.policy.retries.toNat_lt
  have within := account.within
  cases ends : (job.ruling (job.stageAt start state last)).ending? with
  | some ending =>
    refine ⟨last, by omega, fun index _ => ⟨(·.le ends), account.reached⟩, ?_⟩
    rw [delays, reported, List.range_succ, List.flatMap_append, List.flatMap_singleton,
      List.filterMap_append, delay_of_ending ends, List.append_nil,
      delays_of_reached (account.reached (Nat.le_refl last))]
  | none =>
    -- All rounds that the count can number go on.
    have full := (account.overrun ends).2
    have final := (account.overrun ends).1
    have reached : job.Reached start state (last + 1) :=
      (account.reached (Nat.le_refl last)).succ ends
    refine ⟨last + 1, by omega, fun index bound => ⟨fun _ => by omega, fun inside =>
      ⟨reached.starts, fun earlier before => reached.goesOn earlier (by omega)⟩⟩,
      delays_of_reached reached⟩

/-- What keeps the delays of a run from shrinking. -/
structure Lasting (job : Job σ α) (start : Nat) (state : σ) : Prop where
  -- No retry that comes after a delay has to wait for 2^64 seconds or more.
  short : ∀ earlier later, 0 < earlier → earlier < later → later < 2 ^ 32 →
    job.Reached start state later → 0 < job.policy.delay (.ofNat earlier) →
      (job.policy.backoff (.ofNat later)).isLess Binary64.endless = true
  -- If the count of the retries starts over, then with a delay that is no shorter.
  startsOver : job.Reached start state (2 ^ 32) →
    job.policy.delay (.ofNat (2 ^ 32 - 1)) ≤ job.policy.delay 0

/-- Delays of two retries are in order unless the wait for the later one is too long. -/
theorem delay_le_iff (doubling : job.policy.mode = .exponential)
    (notBelow : Binary64.zero.le job.policy.unit = true) {earlier later : Nat}
    (ordered : earlier < later) (counted : later < 2 ^ 32) :
    job.policy.delay (.ofNat earlier) ≤ job.policy.delay (.ofNat later) ↔
      (0 < job.policy.delay (.ofNat earlier) →
        (job.policy.backoff (.ofNat later)).isLess Binary64.endless = true) := by
  rcases job.policy.endless_le_or_isLess (.ofNat later) with long | short
  · have none := Policy.delay_of_endless long
    have apart : ¬ (job.policy.backoff (.ofNat later)).isLess Binary64.endless = true := by
      simp [Binary64.isLess, long]
    rw [none]
    constructor
    · intro empty some
      omega
    · intro needed
      by_cases some : 0 < job.policy.delay (.ofNat earlier)
      · exact absurd (needed some) apart
      · omega
  · have words : UInt32.ofNat earlier ≤ UInt32.ofNat later := by
      rw [UInt32.le_iff_toNat_le, UInt32.toNat_ofNat_of_lt' (Nat.lt_trans ordered counted),
        UInt32.toNat_ofNat_of_lt' counted]
      exact Nat.le_of_lt ordered
    have grows := Policy.delay_mono (Policy.backoff_mono doubling notBelow words) short
    exact ⟨fun _ _ => short, fun _ => grows⟩

theorem pairwise_map_range {β : Type} {related : β → β → Prop} (value : Nat → β) (count : Nat) :
    ((List.range count).map value).Pairwise related ↔
      ∀ first second, first < second → second < count → related (value first) (value second) := by
  rw [List.pairwise_iff_getElem]
  simp only [List.length_map, List.length_range, List.getElem_map, List.getElem_range]
  exact ⟨fun all first second ordered inside => all first second (by omega) inside ordered,
    fun all first second _ inside ordered => all first second ordered inside⟩

theorem ofNat_full : UInt32.ofNat (2 ^ 32) = 0 := by decide

/-- Doubling delays never shrink in a run exactly if nothing takes them away. -/
theorem Account.pairwise_delays_iff (account : job.Account start state last)
    (doubling : job.policy.mode = .exponential)
    (notBelow : Binary64.zero.le job.policy.unit = true) :
    (job.delays start state last).Pairwise (· ≤ ·) ↔ job.Lasting start state := by
  obtain ⟨count, bound, reached, delays⟩ := account.delays_eq
  rw [delays, pairwise_map_range]
  constructor
  · intro sorted
    constructor
    · intro earlier later some ordered counted inside
      have within := (reached later (Nat.le_of_lt counted)).mp inside
      have delay := sorted (earlier - 1) (later - 1) (by omega) (by omega)
      rw [Nat.sub_add_cancel some, Nat.sub_add_cancel (by omega)] at delay
      exact (delay_le_iff doubling notBelow ordered counted).mp delay
    · intro full
      have within := (reached _ (Nat.le_refl _)).mp full
      have delay := sorted (2 ^ 32 - 2) (2 ^ 32 - 1) (by omega) (by omega)
      rwa [show 2 ^ 32 - 2 + 1 = 2 ^ 32 - 1 by omega, show 2 ^ 32 - 1 + 1 = 2 ^ 32 by omega,
        ofNat_full] at delay
  · intro lasting
    have inOrder (first second : Nat) (ordered : first < second) (inside : second < count)
        (counted : second + 1 < 2 ^ 32) :
        job.policy.delay (.ofNat (first + 1)) ≤ job.policy.delay (.ofNat (second + 1)) :=
      (delay_le_iff doubling notBelow (Nat.succ_lt_succ ordered) counted).mpr
        (lasting.short _ _ (Nat.succ_pos first) (Nat.succ_lt_succ ordered) counted
          ((reached _ (Nat.le_of_lt counted)).mpr inside))
    intro first second ordered inside
    by_cases counted : second + 1 < 2 ^ 32
    · exact inOrder first second ordered inside counted
    · -- The last retry of a count that starts over comes after the one with the largest number.
      have full : second + 1 = 2 ^ 32 := by omega
      have again := lasting.startsOver ((reached _ (Nat.le_refl _)).mpr (by omega))
      rw [full, ofNat_full]
      refine Nat.le_trans ?_ again
      by_cases before : first + 1 = 2 ^ 32 - 1
      · rw [before]
      · have delay := inOrder first (2 ^ 32 - 2) (by omega) (by omega) (by omega)
        rwa [show 2 ^ 32 - 2 + 1 = 2 ^ 32 - 1 by omega] at delay

/-- What a run reports about its delays. -/
structure DelayAccount (job : Job σ α) (start : Nat) (state : σ) (last : Nat) : Prop where
  account : job.Account start state last
  -- The delays among the events of the run, if none is reported by its attempts and judgements.
  events : job.RoundsOnly Event.delay? →
    (eventsOf (job.run start state).notes).filterMap Event.delay? = job.delays start state last
  fixed : job.policy.mode = .fixed → (job.delays start state last).Pairwise (· = ·)
  exponential : job.policy.mode = .exponential →
    ((job.delays start state last).Pairwise (· ≤ ·) ↔ job.Lasting start state)

/-- Under the policy of a configuration, delays are all equal in fixed mode, and in exponential mode
they do not shrink exactly as long as no wait is too long for a delay. -/
theorem delays_account {hostname : String} {options : Options} {configuration : Configuration}
    (made : Configuration.ofOptions hostname options = .ok configuration) (job : Job σ α)
    (governed : job.policy = configuration.retryPolicy) (start : Nat) (state : σ) :
    job.Unstarted start state ∨ ∃ last, job.DelayAccount start state last := by
  have validated := Configuration.validated_of_ofOptions made
  have notBelow : Binary64.zero.le job.policy.unit = true := by
    rw [governed]
    exact Binary64.zero_le_of_sensible validated.unit
  refine (job.run_account start state).imp_right fun ⟨last, account⟩ => ?_
  refine ⟨last, account, fun only => only.run account, fun constant => ?_, fun doubling =>
    account.pairwise_delays_iff doubling notBelow⟩
  obtain ⟨count, _, _, delays⟩ := account.delays_eq
  rw [delays, pairwise_map_range]
  exact fun _ _ _ _ => Policy.delay_of_fixed constant _ _

/-- Waits that double from 2^62 seconds on, the longest one being 2^64 seconds. -/
def ages : Options where
  retries := 2
  waitUnit := .finite false (Nat.pow 2 62 * Binary64.one)
  longestWait := .finite false (Nat.pow 2 64 * Binary64.one)

/-- Attempts that are all worth a retry, under the policy of certain options. -/
def underOptions (options : Options) : Job Rehearsal Json :=
  rehearsal ⟨options.retries, options.retryMode, options.waitUnit, options.longestWait⟩ "orders"
    .always {}

theorem ofOptions_ages :
    ∃ configuration, Configuration.ofOptions "space.example" ages = .ok configuration ∧
      (underOptions ages).policy = configuration.retryPolicy :=
  ⟨_, rfl, rfl⟩

/-- The first retry waits for 2^63 seconds and the second one, which should wait for twice as long,
not at all. -/
theorem not_pairwise_delays_ages :
    (∃ configuration, Configuration.ofOptions "space.example" ages = .ok configuration ∧
      (underOptions ages).policy = configuration.retryPolicy) ∧
    (underOptions ages).policy.mode = .exponential ∧
    (eventsOf ((underOptions ages).run 0 (busyFor 3)).notes).filterMap Event.delay? =
      [9223372036854775808000000000, 0] ∧
    ¬ [9223372036854775808000000000, 0].Pairwise (· ≤ ·) :=
  ⟨ofOptions_ages, rfl, by decide +kernel, by decide⟩

theorem delays_account_ages :
    ∃ configuration, Configuration.ofOptions "space.example" ages = .ok configuration ∧
      (underOptions ages).policy = configuration.retryPolicy ∧
      ∃ last, (underOptions ages).DelayAccount 0 (busyFor 3) last := by
  obtain ⟨configuration, made, governed⟩ := ofOptions_ages
  have account := delays_account made _ governed 0 (busyFor 3)
  exact ⟨configuration, made, governed, account.resolve_left (not_unstarted rfl)⟩

end Job

end Retry
end BusLink
