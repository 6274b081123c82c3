import BusLink.Proofs.Chain

set_option autoImplicit false

namespace BusLink.Retry.Job

variable {σ α β : Type} {job : Job σ α} {part : Note → Option β} {stage : Stage σ}

theorem isRound_report? {event : Event} (reported : job.report? stage = some event) :
    (Note.event event).isRound = true := by
  unfold Job.report? at reported
  cases ruling : job.ruling stage with
  | success | abort | verdict | brokenOff =>
    rw [ruling] at reported
    cases reported
  | exhausted | timedOut | goesOn =>
    rw [ruling] at reported
    cases reported
    rfl

theorem mem_roundNotes {note : Stamped Note} (member : note ∈ job.roundNotes stage) :
    note.what.isRound = true ∨ note ∈ (job.tried stage).notes ∨
      ∃ raised, (job.ruling stage).raised? = some raised ∧
        note ∈ (job.judgement stage raised).notes := by
  have attempted (among : note ∈ job.attemptNotes stage) :
      note.what.isRound = true ∨ note ∈ (job.tried stage).notes := by
    rcases List.mem_cons.mp among with rfl | among
    · exact .inl rfl
    · exact .inr among
  unfold Job.roundNotes at member
  cases judged : (job.ruling stage).raised? with
  | none =>
    rw [judged] at member
    exact (attempted member).imp_right .inl
  | some raised =>
    rw [judged] at member
    rcases List.mem_append.mp member with judging | reporting
    · rcases List.mem_append.mp judging with among | among
      · exact (attempted among).imp_right .inl
      · rcases List.mem_cons.mp among with rfl | among
        · exact .inl rfl
        · exact .inr (.inr ⟨raised, rfl, among⟩)
    · obtain ⟨event, reported, rfl⟩ := List.mem_map.mp reporting
      exact .inl (isRound_report? (Option.mem_toList.mp reported))

/-- Neither the rounds of a job nor its judgements leave notes of a kind. -/
structure AttemptsOnly (job : Job σ α) (part : Note → Option β) : Prop where
  rounds : ∀ note, note.isRound = true → part note = none
  judges : ∀ raised now state,
    (contents (job.judge raised now state).notes).filterMap part = []

namespace AttemptsOnly

variable (only : job.AttemptsOnly part)

include only

theorem report? (stage : Stage σ) (instant : Nat) :
    (contents ((job.report? stage).toList.map (⟨instant, .event ·⟩))).filterMap part = [] := by
  rw [List.filterMap_eq_nil_iff]
  intro note member
  refine only.rounds note ?_
  simp only [contents, List.map_map, List.mem_map, Option.mem_toList] at member
  obtain ⟨event, reported, rfl⟩ := member
  exact isRound_report? reported

theorem attemptNotes (stage : Stage σ) :
    (contents (job.attemptNotes stage)).filterMap part =
      (contents (job.tried stage).notes).filterMap part :=
  List.filterMap_cons_none (only.rounds _ rfl)

theorem judgedNotes (stage : Stage σ) (raised : Fault) :
    (contents (job.judgedNotes stage raised)).filterMap part =
      (contents (job.tried stage).notes).filterMap part := by
  have judged : (contents (⟨job.triedAt stage, .judged raised⟩ ::
      (job.judgement stage raised).notes)).filterMap part = [] :=
    (List.filterMap_cons_none (only.rounds _ rfl)).trans (only.judges raised _ _)
  rw [Job.judgedNotes, contents_append, List.filterMap_append, only.attemptNotes, judged,
    List.append_nil]

theorem roundNotes (stage : Stage σ) :
    (contents (job.roundNotes stage)).filterMap part =
      (contents (job.tried stage).notes).filterMap part := by
  cases judged : (job.ruling stage).raised? with
  | none =>
    simp only [Job.roundNotes, judged]
    exact only.attemptNotes stage
  | some raised =>
    simp only [Job.roundNotes, judged, contents_append, List.filterMap_append, only.report?,
      List.append_nil]
    exact only.judgedNotes stage raised

theorem run {start last : Nat} {state : σ} (account : job.Account start state last) :
    (contents (job.run start state).notes).filterMap part =
      (List.range (last + 1)).flatMap fun index =>
        (contents (job.tried (job.stageAt start state index)).notes).filterMap part := by
  rw [account.notes, contents, List.map_flatMap, List.filterMap_flatMap]
  exact congrArg (List.range (last + 1)).flatMap (funext fun _ => only.roundNotes _)

theorem mem_tried {stage : Stage σ} {note : Stamped Note} {found : β}
    (member : note ∈ job.roundNotes stage) (kind : part note.what = some found) :
    note ∈ (job.tried stage).notes := by
  rcases mem_roundNotes member with round | tried | ⟨raised, _, judging⟩
  · cases (only.rounds _ round).symm.trans kind
  · exact tried
  · have silent := only.judges raised (job.triedAt stage) (job.tried stage).state
    rw [List.filterMap_eq_nil_iff] at silent
    cases (silent note.what (List.mem_map_of_mem judging)).symm.trans kind

theorem mem_run {start last : Nat} {state : σ} (account : job.Account start state last)
    {note : Stamped Note} {found : β} (member : note ∈ (job.run start state).notes)
    (kind : part note.what = some found) :
    ∃ index ≤ last, note ∈ (job.tried (job.stageAt start state index)).notes := by
  rw [account.notes, List.mem_flatMap] at member
  obtain ⟨index, reached, left⟩ := member
  exact ⟨index, Nat.le_of_lt_succ (List.mem_range.mp reached), only.mem_tried left kind⟩

/-- Attempts that leave one note of a kind at most make a run that leaves no more than one for each
of its attempts. -/
theorem length_run_le {start last : Nat} {state : σ} (account : job.Account start state last)
    (single : ∀ index ≤ last,
      ((contents (job.tried (job.stageAt start state index)).notes).filterMap part).length ≤ 1) :
    ((contents (job.run start state).notes).filterMap part).length ≤ last + 1 := by
  have bounded (count : Nat) (within : count ≤ last + 1) :
      ((List.range count).flatMap fun index =>
        (contents (job.tried (job.stageAt start state index)).notes).filterMap part).length ≤
          count := by
    induction count with
    | zero => exact Nat.le_refl 0
    | succ count ih =>
      have before := ih (by omega)
      have next := single count (by omega)
      rw [List.range_succ, List.flatMap_append, List.flatMap_singleton, List.length_append]
      omega
  rw [only.run account]
  exact bounded (last + 1) (Nat.le_refl _)

end AttemptsOnly
end BusLink.Retry.Job
