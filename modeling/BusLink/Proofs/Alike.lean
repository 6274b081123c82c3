import BusLink.Proofs.Retry.Rounds

set_option autoImplicit false

namespace BusLink

variable {ν σ α β : Type} {kept : σ → Prop}

/-- In states of a kind both activities come to the same, which is a state of that kind again. -/
structure Activity.Alike (kept : σ → Prop) (first second : Activity ν σ α) : Prop where
  same : ∀ now state, kept state → first now state = second now state
  stays : ∀ now state, kept state → kept (second now state).state

namespace Activity

theorem alike_pure (value : α) :
    Alike kept (pure value : Activity ν σ α) (pure value) :=
  ⟨fun _ _ _ => rfl, fun _ _ start => start⟩

theorem alike_now : Alike kept (now : Activity ν σ Nat) now :=
  ⟨fun _ _ _ => rfl, fun _ _ start => start⟩

theorem alike_current : Alike kept (current : Activity ν σ σ) current :=
  ⟨fun _ _ _ => rfl, fun _ _ start => start⟩

theorem alike_note (what : ν) : Alike kept (note what : Activity ν σ Unit) (note what) :=
  ⟨fun _ _ _ => rfl, fun _ _ start => start⟩

theorem alike_update {change : σ → σ} (keeps : ∀ state, kept state → kept (change state)) :
    Alike kept (update change : Activity ν σ Unit) (update change) :=
  ⟨fun _ _ _ => rfl, fun _ state start => keeps state start⟩

theorem alike_bind {first other : Activity ν σ α} {next rest : α → Activity ν σ β}
    (start : Alike kept first other) (onward : ∀ value, Alike kept (next value) (rest value)) :
    Alike kept (first >>= next) (other >>= rest) := by
  constructor
  · intro now state before
    have after := start.stays now state before
    rw [bind_apply, bind_apply, start.same now state before, (onward _).same _ _ after]
  · intro now state before
    exact (onward _).stays _ _ (start.stays now state before)

end Activity

namespace Retry.Job

open Activity

variable (job : Job σ α)

theorem alike_settle (deadline : Option Nat) (retry : UInt32) (fault : Fault) :
    Alike kept (job.settle deadline retry fault) (job.settle deadline retry fault) := by
  refine ⟨fun _ _ _ => rfl, ?_⟩
  intro now state start
  rw [settle_apply]
  split
  · exact start
  · split
    · exact start
    · split
      · exact start
      · exact start

variable {attempt : Context → Activity Note σ (Except Fault α)}
variable {judge : Fault → Activity Note σ (Except Fault Fault)}

theorem alike_rounds (attempts : ∀ context, Alike kept (attempt context) (job.attempt context))
    (judges : ∀ fault, Alike kept (judge fault) (job.judge fault)) (deadline : Option Nat)
    (left : Nat) (retried : UInt32) (last : Option Fault) :
    Alike kept ({ job with attempt, judge }.rounds deadline left retried last)
      (job.rounds deadline left retried last) := by
  induction left generalizing retried last with
  | zero => exact alike_pure none
  | succ left ih =>
    refine alike_bind alike_now fun now => ?_
    refine alike_bind (alike_note _) fun _ => ?_
    refine alike_bind (attempts _) fun outcome => ?_
    cases outcome with
    | ok value => exact alike_pure _
    | error raised =>
      dsimp only
      split
      · exact alike_pure _
      · refine alike_bind (alike_note _) fun _ => ?_
        refine alike_bind (judges raised) fun verdict => ?_
        cases verdict with
        | error fault => exact alike_pure _
        | ok fault =>
          refine alike_bind (job.alike_settle deadline (retried + 1) fault) fun ending => ?_
          cases ending with
          | some ending => exact alike_pure _
          | none => exact ih _ _

theorem alike_run (attempts : ∀ context, Alike kept (attempt context) (job.attempt context))
    (judges : ∀ fault, Alike kept (judge fault) (job.judge fault)) :
    Alike kept { job with attempt, judge }.run job.run := by
  refine alike_bind ?_ fun _ => alike_pure _
  refine alike_bind alike_now fun start => ?_
  have same : { job with attempt, judge }.starts start = job.starts start := rfl
  rw [same]
  split
  · exact job.alike_rounds attempts judges _ _ _ _
  · exact alike_pure _

end Retry.Job
end BusLink
