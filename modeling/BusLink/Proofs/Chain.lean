import BusLink.Proofs.Retry.Rounds

set_option autoImplicit false

namespace BusLink

variable {ν σ α β : Type}

/-- Steps one after another, with all that they note. -/
inductive Chain (step : σ → List ν → σ → Prop) : σ → List ν → σ → Prop where
  | still (state : σ) : Chain step state [] state
  | move {first second third : σ} {notes more : List ν} (move : step first notes second)
      (rest : Chain step second more third) : Chain step first (notes ++ more) third

namespace Chain

variable {step wider : σ → List ν → σ → Prop} {first second third : σ} {notes more : List ν}

theorem one (move : step first notes second) : Chain step first notes second := by
  have chain := Chain.move move (.still second)
  rwa [List.append_nil] at chain

theorem trans (start : Chain step first notes second) (rest : Chain step second more third) :
    Chain step first (notes ++ more) third := by
  induction start with
  | still state => exact rest
  | move move _ ih =>
    rw [List.append_assoc]
    exact .move move (ih rest)

theorem mono (weaken : ∀ {first notes second}, step first notes second → wider first notes second)
    (chain : Chain step first notes second) : Chain wider first notes second := by
  induction chain with
  | still state => exact .still state
  | move move _ ih => exact .move (weaken move) ih

theorem keeps (kept : σ → Prop)
    (keep : ∀ {first notes second}, step first notes second → kept first → kept second)
    (chain : Chain step first notes second) (start : kept first) : kept second := by
  induction chain with
  | still state => exact start
  | move move _ ih => exact ih (keep move start)

/-- What every step from a kind of state keeps and leaves is what a chain from there does. -/
theorem keepsQuiet {kept : σ → Prop} {quiet : ν → Prop}
    (keep : ∀ {first notes second}, step first notes second → kept first →
      kept second ∧ ∀ note ∈ notes, quiet note)
    (chain : Chain step first notes second) (start : kept first) :
    kept second ∧ ∀ note ∈ notes, quiet note := by
  induction chain with
  | still state => exact ⟨start, by simp⟩
  | move move _ ih =>
    obtain ⟨next, early⟩ := keep move start
    obtain ⟨final, late⟩ := ih next
    refine ⟨final, fun note member => ?_⟩
    rcases List.mem_append.mp member with before | after
    · exact early note before
    · exact late note after

end Chain

/-- The notes without their instants. -/
def contents (notes : List (Stamped ν)) : List ν := notes.map (·.what)

@[simp] theorem contents_nil : contents ([] : List (Stamped ν)) = [] := rfl

@[simp] theorem contents_cons (note : Stamped ν) (notes : List (Stamped ν)) :
    contents (note :: notes) = note.what :: contents notes := rfl

@[simp] theorem contents_append (first second : List (Stamped ν)) :
    contents (first ++ second) = contents first ++ contents second :=
  List.map_append

/-- Wherever the activity starts, what it leaves is a chain of steps. -/
def Activity.Follows (step : σ → List ν → σ → Prop) (activity : Activity ν σ α) : Prop :=
  ∀ now state, Chain step state (contents (activity now state).notes) (activity now state).state

namespace Activity

variable {step wider : σ → List ν → σ → Prop}

theorem Follows.mono {activity : Activity ν σ α} (follows : activity.Follows step)
    (weaken : ∀ {first notes second}, step first notes second → wider first notes second) :
    activity.Follows wider := fun now state => (follows now state).mono weaken

theorem follows_pure (value : α) : (pure value : Activity ν σ α).Follows step :=
  fun _ state => .still state

theorem follows_bind {first : Activity ν σ α} {next : α → Activity ν σ β}
    (start : first.Follows step) (rest : ∀ value, (next value).Follows step) :
    (first >>= next).Follows step := by
  intro now state
  rw [bind_apply, notes_after, contents_append, state_after]
  exact (start now state).trans (rest _ _ _)

theorem follows_current : (current : Activity ν σ σ).Follows step :=
  fun _ state => .still state

theorem follows_now : (now : Activity ν σ Nat).Follows step :=
  fun _ state => .still state

theorem follows_note {what : ν} (steps : ∀ state, step state [what] state) :
    (note what : Activity ν σ Unit).Follows step :=
  fun _ state => .one (steps state)

theorem follows_update {change : σ → σ} (steps : ∀ state, step state [] (change state)) :
    (update change : Activity ν σ Unit).Follows step :=
  fun _ state => .one (steps state)

end Activity

/-- Whether a note is about neither the link nor the session of a handler. -/
def Note.isAside : Note → Bool
  | .attempt _ | .judged _ | .linkRequested _ | .linkRefused _ | .answered _ => true
  | .event (.managementRequest ..) | .event (.retrying ..) => true
  | .event (.retryExhausted ..) | .event (.retryTimedOut ..) => true
  | _ => false

/-- Whether a note is about the rounds of a retried operation. -/
def Note.isRound : Note → Bool
  | .attempt _ | .judged _ => true
  | .event (.retrying ..) | .event (.retryExhausted ..) | .event (.retryTimedOut ..) => true
  | _ => false

theorem Note.isAside_of_isRound {note : Note} (round : note.isRound = true) :
    note.isAside = true := by
  cases note with
  | event event => cases event <;> first | rfl | cases round
  | _ => first | rfl | cases round

/-- The events that notes report, in order. -/
def reports (notes : List Note) : List Event := notes.filterMap Note.event?

theorem reports_append (first second : List Note) :
    reports (first ++ second) = reports first ++ reports second :=
  List.filterMap_append

namespace Retry.Job

variable {step : σ → List Note → σ → Prop} (job : Job σ α)

theorem follows_settle (rounds : ∀ state note, note.isRound = true → step state [note] state)
    (deadline : Option Nat) (retry : UInt32) (fault : Fault) :
    (job.settle deadline retry fault).Follows step := by
  intro now state
  rw [settle_apply]
  split
  · exact .one (rounds state _ rfl)
  · split
    · exact .still state
    · split
      · exact .one (rounds state _ rfl)
      · exact .one (rounds state _ rfl)

/-- Rounds follow the steps that their attempts and their judgements follow. -/
theorem follows_rounds (rounds : ∀ state note, note.isRound = true → step state [note] state)
    (attempts : ∀ context, (job.attempt context).Follows step)
    (judges : ∀ fault, (job.judge fault).Follows step) (deadline : Option Nat) (left : Nat)
    (retried : UInt32) (last : Option Fault) :
    (job.rounds deadline left retried last).Follows step := by
  -- Every round is one of the steps left, so the induction goes with them.
  induction left generalizing retried last with
  | zero => exact Activity.follows_pure none
  | succ left ih =>
    refine Activity.follows_bind Activity.follows_now fun now => ?_
    refine Activity.follows_bind (Activity.follows_note fun _ => rounds _ _ rfl) fun _ => ?_
    refine Activity.follows_bind (attempts _) fun outcome => ?_
    cases outcome with
    | ok value => exact Activity.follows_pure _
    | error raised =>
      dsimp only
      split
      · exact Activity.follows_pure _
      · refine Activity.follows_bind (Activity.follows_note fun _ => rounds _ _ rfl) fun _ => ?_
        refine Activity.follows_bind (judges raised) fun verdict => ?_
        cases verdict with
        | error fault => exact Activity.follows_pure _
        | ok fault =>
          refine Activity.follows_bind (job.follows_settle rounds _ _ _) fun ending => ?_
          cases ending with
          | some ending => exact Activity.follows_pure _
          | none => exact ih _ _

theorem follows_run (rounds : ∀ state note, note.isRound = true → step state [note] state)
    (attempts : ∀ context, (job.attempt context).Follows step)
    (judges : ∀ fault, (job.judge fault).Follows step) : job.run.Follows step := by
  refine Activity.follows_bind ?_ fun _ => Activity.follows_pure _
  refine Activity.follows_bind Activity.follows_now fun start => ?_
  split
  · exact job.follows_rounds rounds attempts judges _ _ _ _
  · exact Activity.follows_pure _

end Retry.Job
end BusLink
