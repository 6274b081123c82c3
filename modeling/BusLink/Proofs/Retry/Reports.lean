import BusLink.Proofs.Retry.Rounds

set_option autoImplicit false

namespace BusLink.Retry.Job

variable {σ α β : Type} {job : Job σ α} {stage : Stage σ} {start last : Nat} {state : σ}

/-- The reports of the rounds of a run, in order. -/
def reported (job : Job σ α) (start : Nat) (state : σ) (last : Nat) : List Event :=
  (List.range (last + 1)).flatMap fun index => (job.report? (job.stageAt start state index)).toList

/-- An event that the attempt of a round or its judgement reports. -/
def Elsewhere (job : Job σ α) (stage : Stage σ) (event : Event) : Prop :=
  event ∈ eventsOf (job.tried stage).notes ∨
    ∃ raised, (job.ruling stage).raised? = some raised ∧
      event ∈ eventsOf (job.judgement stage raised).notes

/-- Neither the attempts of a job nor its judgements report events of a kind. -/
structure RoundsOnly (job : Job σ α) (part : Event → Option β) : Prop where
  attempts : ∀ context now state,
    (eventsOf (job.attempt context now state).notes).filterMap part = []
  judges : ∀ raised now state,
    (eventsOf (job.judge raised now state).notes).filterMap part = []

theorem eventsOf_cons_attempt (instant : Nat) (context : Context) (notes : List (Stamped Note)) :
    eventsOf (⟨instant, .attempt context⟩ :: notes) = eventsOf notes := rfl

theorem eventsOf_cons_judged (instant : Nat) (fault : Fault) (notes : List (Stamped Note)) :
    eventsOf (⟨instant, .judged fault⟩ :: notes) = eventsOf notes := rfl

theorem eventsOf_events (instant : Nat) (events : List Event) :
    eventsOf (events.map (⟨instant, .event ·⟩)) = events := by
  rw [eventsOf, List.filterMap_map]
  exact List.filterMap_some

theorem mem_eventsOf_roundNotes {event : Event}
    (member : event ∈ eventsOf (job.roundNotes stage)) :
    job.report? stage = some event ∨ job.Elsewhere stage event := by
  have attempted (among : event ∈ eventsOf (job.attemptNotes stage)) :
      job.Elsewhere stage event := by
    rw [attemptNotes, eventsOf_cons_attempt] at among
    exact .inl among
  cases judged : (job.ruling stage).raised? with
  | none =>
    simp only [roundNotes, judged] at member
    exact .inr (attempted member)
  | some raised =>
    simp only [roundNotes, judged, judgedNotes, eventsOf_append, eventsOf_cons_judged,
      eventsOf_events, List.mem_append, Option.mem_toList] at member
    rcases member with (among | among) | reported
    · exact .inr (attempted among)
    · exact .inr (.inr ⟨raised, judged, among⟩)
    · exact .inl reported

theorem Account.mem_eventsOf_run (account : job.Account start state last) {event : Event}
    (member : event ∈ eventsOf (job.run start state).notes) :
    ∃ index ≤ last, job.report? (job.stageAt start state index) = some event ∨
      job.Elsewhere (job.stageAt start state index) event := by
  rw [account.notes, eventsOf, List.filterMap_flatMap, List.mem_flatMap] at member
  obtain ⟨index, reached, among⟩ := member
  exact ⟨index, Nat.le_of_lt_succ (List.mem_range.mp reached), mem_eventsOf_roundNotes among⟩

theorem report?_ne_timedOut
    (ruling : ∀ raised fault, job.ruling stage ≠ .timedOut raised fault) (entity : String)
    (fault : Fault) : job.report? stage ≠ some (.retryTimedOut entity fault) := by
  intro reported
  unfold report? at reported
  cases found : job.ruling stage with
  | success | abort | verdict | exhausted | brokenOff | goesOn =>
    rw [found] at reported
    cases reported
  | timedOut raised judged => exact ruling raised judged found

namespace RoundsOnly

variable {part : Event → Option β} (only : job.RoundsOnly part)

include only

theorem attemptNotes (stage : Stage σ) :
    (eventsOf (job.attemptNotes stage)).filterMap part = [] := by
  rw [Job.attemptNotes, eventsOf_cons_attempt]
  exact only.attempts _ _ _

theorem judgedNotes (stage : Stage σ) (raised : Fault) :
    (eventsOf (job.judgedNotes stage raised)).filterMap part = [] := by
  rw [Job.judgedNotes, eventsOf_append, List.filterMap_append, only.attemptNotes,
    eventsOf_cons_judged, List.nil_append]
  exact only.judges _ _ _

theorem roundNotes (stage : Stage σ) :
    (eventsOf (job.roundNotes stage)).filterMap part =
      (job.report? stage).toList.filterMap part := by
  cases judged : (job.ruling stage).raised? with
  | none =>
    have silent : job.report? stage = none := by
      unfold Job.report?
      cases ruling : job.ruling stage with
      | success value | abort raised | verdict raised fault | brokenOff raised fault => rfl
      | exhausted raised fault | timedOut raised fault | goesOn raised fault =>
        rw [ruling] at judged
        cases judged
    simp only [Job.roundNotes, judged, silent]
    exact only.attemptNotes stage
  | some raised =>
    simp only [Job.roundNotes, judged, eventsOf_append, List.filterMap_append, only.judgedNotes,
      eventsOf_events, List.nil_append]

/-- A run reports of a kind what its rounds report of it. -/
theorem run (account : job.Account start state last) :
    (eventsOf (job.run start state).notes).filterMap part =
      (job.reported start state last).filterMap part := by
  rw [account.notes, reported, eventsOf, List.filterMap_flatMap, List.filterMap_flatMap,
    List.filterMap_flatMap]
  exact congrArg (List.range (last + 1)).flatMap (funext fun _ => only.roundNotes _)

end RoundsOnly
end BusLink.Retry.Job
