import BusLink.Proofs.Number.Extent
import BusLink.Proofs.Retry.Budget
import BusLink.Proofs.Retry.Reports
import BusLink.Proofs.Retry.Waits
import BusLink.Rehearsal

set_option autoImplicit false

namespace BusLink

namespace Binary64

def isLess (left right : Binary64) : Bool :=
  left.le right && !right.le left

/-- A value moved to the nearer end of a range in which it does not lie. There is no range from a
greater number to a smaller one, or with NaN for an end. -/
def movedInto? (value lower upper : Binary64) : Option Binary64 :=
  if lower.le upper then
    let raised := if value.isLess lower then lower else value
    some (if upper.isLess raised then upper else raised)
  else none

theorem isLess_orZero (left right : Binary64) :
    left.orZero.isLess right.orZero = !right.orZero.le left.orZero := by
  rw [isLess]
  cases back : right.orZero.le left.orZero with
  | true => rw [Bool.not_true, Bool.and_false]
  | false =>
    rw [Bool.not_false, Bool.and_true]
    have apart : ¬ right.extent ≤ left.extent := by
      rw [← orZero_le_orZero_iff, back]
      exact Bool.false_ne_true
    exact (orZero_le_orZero_iff left right).mpr (le_of_lt (not_le.mp apart))

theorem raised_eq {value : Binary64} (number : value ≠ .nan) :
    (if value.isLess zero then zero else value) = value.orZero ∨
      value = .finite true 0 ∧ (if value.isLess zero then zero else value) = value := by
  cases value with
  | nan => exact absurd rfl number
  | infinite negative => cases negative <;> exact .inl rfl
  | finite negative units =>
    cases units with
    | zero =>
      cases negative with
      | false => exact .inl rfl
      | true => exact .inr ⟨rfl, rfl⟩
    | succ units =>
      left
      cases negative with
      | false =>
        rw [if_neg (by simp [isLess, zero, le, signed])]
        rfl
      | true =>
        rw [if_pos (by simp [isLess, zero, le, signed]; omega)]
        rfl

theorem movedInto?_orZero {value : Binary64} (number : value ≠ .nan) (upper : Binary64) :
    ∃ moved, value.movedInto? .zero upper.orZero = some moved ∧
      moved.sameValue (value.clampTo upper.orZero) = true := by
  rw [movedInto?, if_pos (zero_le_orZero upper)]
  refine ⟨_, rfl, ?_⟩
  rcases raised_eq number with raised | ⟨rfl, raised⟩
  · have moved : (if upper.orZero.isLess value.orZero then upper.orZero else value.orZero) =
        value.clampTo upper.orZero := by
      rw [isLess_orZero, clampTo]
      cases value.orZero.le upper.orZero <;> rfl
    have itself := orZero_le_orZero (value.clampTo upper.orZero)
    rw [orZero_clampTo] at itself
    rw [raised, moved, sameValue, itself, Bool.and_self]
  · rw [raised]
    rcases orZero_eq upper with ⟨form, _⟩ | ⟨units, form, _⟩
    · rw [form]
      rfl
    · rw [form]
      simp [isLess, clampTo, sameValue, orZero, zero, le, signed]

theorem zero_le_of_sensible {value : Binary64} (sensible : value.Sensible) :
    zero.le value = true :=
  (le_orZero sensible zero).symm.trans (zero_le_orZero value)

end Binary64

namespace Retry

namespace Policy

variable (policy : Policy)

/-- A wait before a retry that keeps to its bounds. -/
structure Bounded (retry : UInt32) : Prop where
  -- What the mode asks for is moved into the range up to the longest wait, which is a range; NaN is
  -- no wait.
  moved : policy.unbounded retry = .nan ∧ policy.backoff retry = .zero ∨
    policy.unbounded retry ≠ .nan ∧
      ∃ moved, (policy.unbounded retry).movedInto? .zero policy.longest.orZero = some moved ∧
        moved.sameValue (policy.backoff retry) = true
  isNumber : policy.backoff retry ≠ .nan
  notBelow : Binary64.zero.le (policy.backoff retry) = true
  -- Beyond zero, it does not exceed the longest wait.
  notBeyond : (policy.backoff retry).le .zero = true ∨
    (policy.backoff retry).le policy.longest = true

@[simp] theorem orZero_backoff (retry : UInt32) :
    (policy.backoff retry).orZero = policy.backoff retry :=
  Binary64.orZero_clampTo _ _

theorem bounded (retry : UInt32) : policy.Bounded retry where
  moved := by
    by_cases number : policy.unbounded retry = .nan
    · refine .inl ⟨number, ?_⟩
      rw [backoff, number, Binary64.clampTo]
      exact if_pos (Binary64.zero_le_orZero _)
    · exact .inr ⟨number, Binary64.movedInto?_orZero number policy.longest⟩
  isNumber := by
    rw [← orZero_backoff]
    exact Binary64.orZero_ne_nan _
  notBelow := by
    rw [← orZero_backoff]
    exact Binary64.zero_le_orZero _
  notBeyond := Binary64.le_zero_or_le_of_le_orZero
    (Binary64.clampTo_le (Binary64.orZero_le_orZero policy.longest))

variable {policy}

theorem extent_unbounded_mono (doubling : policy.mode = .exponential)
    (notBelow : Binary64.zero.le policy.unit = true) {first second : UInt32}
    (ordered : first ≤ second) :
    (policy.unbounded first).extent ≤ (policy.unbounded second).extent := by
  simp only [unbounded, doubling]
  exact Binary64.extent_timesPower_mono notBelow (UInt32.le_iff_toNat_le.mp ordered)

/-- A wait that doubles never gets shorter. -/
theorem backoff_mono (doubling : policy.mode = .exponential)
    (notBelow : Binary64.zero.le policy.unit = true) {first second : UInt32}
    (ordered : first ≤ second) : (policy.backoff first).le (policy.backoff second) = true :=
  Binary64.clampTo_mono (extent_unbounded_mono doubling notBelow ordered) policy.longest

end Policy

namespace Job

variable {σ α : Type} {job : Job σ α} {stage : Stage σ} {start : Nat} {state : σ}

/-- A round whose wait the policy admits does not run out of time without a deadline. -/
theorem ruling_ne_timedOut (free : stage.deadline = none)
    (admitted : job.policy.admits stage.retry = true) (raised fault : Fault) :
    job.ruling stage ≠ .timedOut raised fault := by
  intro ruling
  obtain ⟨_, _, _, _, _, refused⟩ := ruling_eq_iff.mp ruling
  rw [mayWait, free, admitted] at refused
  cases refused

/-- A run that never gives up early. What its attempts and judgements report is theirs. -/
structure KeepsOn (job : Job σ α) (start : Nat) (state : σ) : Prop where
  ruling : ∀ index raised fault,
    job.ruling (job.stageAt start state index) ≠ .timedOut raised fault
  events : ∀ entity fault,
    Event.retryTimedOut entity fault ∈ eventsOf (job.run start state).notes →
      ∃ index, job.Reached start state index ∧
        job.Elsewhere (job.stageAt start state index) (.retryTimedOut entity fault)

theorem keepsOn_of_admits (free : job.terms.deadline? start = none)
    (admits : ∀ retry, job.policy.admits retry = true) : job.KeepsOn start state := by
  have ruling (index : Nat) (raised fault : Fault) :
      job.ruling (job.stageAt start state index) ≠ .timedOut raised fault :=
    ruling_ne_timedOut ((job.deadline_stageAt start state index).trans free) (admits _) raised fault
  refine ⟨ruling, fun entity fault member => ?_⟩
  obtain ⟨last, account⟩ := account_of_starts (starts_of_none free) state
  obtain ⟨index, within, found⟩ := account.mem_eventsOf_run member
  rcases found with reported | elsewhere
  · exact absurd reported (report?_ne_timedOut (ruling index) entity fault)
  · exact ⟨index, account.reached within, elsewhere⟩

end Job

namespace Policy

/-- No wait is refused, and no run without a deadline gives up early, whatever is attempted and
however faults are judged. -/
structure Unrefused (policy : Policy) : Prop where
  admits : ∀ retry, policy.admits retry = true
  keepsOn : ∀ {σ α : Type} (job : Job σ α) (start : Nat) (state : σ), job.policy = policy →
    job.terms.deadline? start = none → job.KeepsOn start state

theorem unrefused_of_ofOptions {hostname : String} {options : Options}
    {configuration : Configuration}
    (made : Configuration.ofOptions hostname options = .ok configuration) :
    configuration.retryPolicy.Unrefused := by
  have validated := Configuration.validated_of_ofOptions made
  have admits (retry : UInt32) : configuration.retryPolicy.admits retry = true :=
    admits_of_sensible validated.longest retry
  exact ⟨admits, fun job start state governed free =>
    Job.keepsOn_of_admits free fun retry => governed ▸ admits retry⟩

/-- Every wait of a policy keeps to its bounds, one that doubles never gets shorter, and what a
configuration was accepted with leads to no refusal. -/
theorem backoff_bounded (policy : Policy) :
    (∀ retry, policy.Bounded retry) ∧
      (policy.mode = .exponential → Binary64.zero.le policy.unit = true →
        ∀ first second, first ≤ second →
          (policy.backoff first).le (policy.backoff second) = true) ∧
      ∀ hostname options configuration,
        Configuration.ofOptions hostname options = .ok configuration →
          configuration.retryPolicy = policy → policy.Unrefused :=
  ⟨policy.bounded, fun doubling notBelow _ _ => backoff_mono doubling notBelow,
    fun _ _ _ made same => same ▸ unrefused_of_ofOptions made⟩

def halfSecond : Options where
  waitUnit := .finite false (Nat.pow 2 1073)
  longestWait := .finite false (60 * Binary64.one)

theorem backoff_bounded_halfSecond :
    ∃ configuration, Configuration.ofOptions "space.example" halfSecond = .ok configuration ∧
      configuration.retryPolicy.mode = .exponential ∧
      Binary64.zero.le configuration.retryPolicy.unit = true ∧
      configuration.retryPolicy.backoff 1 = Binary64.finite false Binary64.one ∧
      configuration.retryPolicy.backoff 4294967295 = halfSecond.longestWait ∧
      configuration.retryPolicy.Unrefused := by
  let configuration : Configuration :=
    ⟨"space.example", .amqp, 3, .exponential, halfSecond.waitUnit, halfSecond.longestWait, "UTF-8",
      none, none⟩
  have made : Configuration.ofOptions "space.example" halfSecond = .ok configuration := rfl
  exact ⟨configuration, made, rfl, rfl, by decide +kernel, by decide +kernel,
    (backoff_bounded configuration.retryPolicy).2.2 _ _ _ made rfl⟩

end Policy
end Retry
end BusLink
