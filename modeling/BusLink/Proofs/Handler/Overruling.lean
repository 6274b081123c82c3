import BusLink.Proofs.Handler.Reopening
import BusLink.Proofs.Handler.Steady

set_option autoImplicit false

namespace BusLink

/-- Faults of one variant that say the same about what happens next. -/
def Fault.Alike (fault other : Fault) : Prop :=
  fault.variant = other.variant ∧ fault.flags = other.flags

/-- A timeout of the transport by which the service means something else. -/
def RawFailure.Overruled (raw : RawFailure) : Prop :=
  raw.kind = .timeout ∧
    ∃ condition : Condition, raw.condition = some condition.symbol ∧ condition ≠ .timeout

/-- The fault by which it is decided what follows on a round. -/
def Retry.Ruling.meaning? {α : Type} : Ruling α → Option Fault
  | .success _ | .abort _ => none
  | .verdict _ fault | .exhausted _ fault | .timedOut _ fault | .brokenOff _ fault
  | .goesOn _ fault => some fault

theorem RawFailure.Condition.variant_eq_operationTimeout_iff (condition : Condition) :
    condition.variant = .operationTimeout ↔ condition = .timeout := by
  cases condition <;> decide

namespace Handler

variable {τ α : Type} {handler : Handler τ} {state : State τ}

def meaningOf (handler : Handler τ) (operation : String) (raw : RawFailure) : Fault :=
  if raw.isTimeout then timedOut operation (.raw raw)
  else raw.classify handler.configuration.customEndpoint

/-- Both readings of a timeout come to the same unless a condition is overruled. -/
theorem alike_timedOut_iff {raw : RawFailure} (timeout : raw.kind = .timeout) (operation : String)
    (endpoint : Option String) :
    (timedOut operation (.raw raw)).Alike (raw.classify endpoint) ↔ ¬ raw.Overruled := by
  have reading := raw.reading_classify endpoint
  by_cases known : ∃ condition : RawFailure.Condition, raw.condition = some condition.symbol
  · obtain ⟨condition, given⟩ := known
    obtain ⟨variant, flags⟩ := reading.known condition given
    have overruled : raw.Overruled ↔ condition ≠ .timeout := by
      constructor
      · rintro ⟨_, other, same, differs⟩
        cases (RawFailure.known?_eq_some_iff.mpr given).symm.trans
          (RawFailure.known?_eq_some_iff.mpr same)
        exact differs
      · intro differs
        exact ⟨timeout, condition, given, differs⟩
    rw [overruled, not_not, ← condition.variant_eq_operationTimeout_iff, ← variant]
    constructor
    · rintro ⟨same, _⟩
      exact same.symm
    · intro same
      refine ⟨same.symm, ?_⟩
      rw [flags true, ← variant, same]
      rfl
  · have unknown : ∀ condition : RawFailure.Condition, raw.condition ≠ some condition.symbol :=
      not_exists.mp known
    obtain ⟨variant, flags⟩ := reading.unknown unknown
    rw [timeout] at variant flags
    refine iff_of_true ⟨variant.symm, flags.symm⟩ ?_
    rintro ⟨_, condition, given, _⟩
    exact unknown condition given

theorem alike_meaningOf_iff (handler : Handler τ) (operation : String) (raw : RawFailure) :
    (handler.meaningOf operation raw).Alike
      (raw.classify handler.configuration.customEndpoint) ↔ ¬ raw.Overruled := by
  unfold meaningOf RawFailure.isTimeout
  by_cases timeout : raw.kind = .timeout
  · rw [if_pos (decide_eq_true timeout)]
    exact alike_timedOut_iff timeout operation _
  · rw [if_neg (by simpa using timeout)]
    exact iff_of_true ⟨rfl, rfl⟩ fun overruled => timeout overruled.1

theorem judge_timedOut (plain : handler.outside.classify = Fault.classify) (operation : String)
    (cause : Fault) (now : Nat) (state : State τ) :
    handler.judge (timedOut operation cause) now state =
      ⟨.ok (timedOut operation cause), 0, [], state⟩ := by
  have same : handler.classified (timedOut operation cause) = timedOut operation cause :=
    classified_of_plain plain _
  have harmless : ¬ handler.Fatal state (timedOut operation cause) := by
    rintro ⟨_, _, ends⟩
    rw [same] at ends
    cases ends
  rw [judge_of_not_fatal now harmless, same, settle_of_not_shutsDown now rfl]
  rfl

section Rounds

variable {terms : Retry.Terms} {attempt : Retry.Context → Program τ (Except Fault α)}
variable {stage : Retry.Stage (State τ)}

/-- The meaning of the fault that an attempt raised decides what follows. -/
theorem meaning?_ruling {raised : Fault}
    (failed : ((handler.job terms attempt).tried stage).value = .error raised)
    (noSignal : raised.isAbort = false) :
    ((handler.job terms attempt).ruling stage).meaning? = some (handler.classified raised) := by
  have rules := (handler.job terms attempt).ruling_rules stage
  cases ruling : (handler.job terms attempt).ruling stage with
  | success value =>
    rw [ruling] at rules
    cases failed.symm.trans rules
  | abort other =>
    rw [ruling] at rules
    cases failed.symm.trans rules.1
    cases noSignal.symm.trans rules.2
  | verdict other fault =>
    rw [ruling] at rules
    cases failed.symm.trans rules.1
    exact congrArg some (eq_of_judge_error rules.2.2).1
  | exhausted other fault | timedOut other fault | brokenOff other fault | goesOn other fault =>
    rw [ruling] at rules
    cases failed.symm.trans rules.1
    exact congrArg some (eq_of_judge_ok rules.2.2.1).1

variable {errand : Errand τ α} {timeout : Option Nat} {raw : RawFailure}

/-- In an attempt the transport answers a request with a raw failure before any timer goes off. -/
def AnsweredRaw (handler : Handler τ) (errand : Errand τ α) (timeout : Option Nat)
    (stage : Retry.Stage (State τ)) (raw : RawFailure) : Prop :=
  ∃ sentAt link request call,
    ⟨sentAt, .sent link request call⟩ ∈ ((handler.errandJob errand timeout).tried stage).notes ∧
      let asked := handler.outside.request link request call sentAt
        (handler.openLink stage.instant stage.state).state.outside
      handler.outside.clock.InTime call.timeout sentAt asked.took ∧ asked.value = .error (.raw raw)

theorem AnsweredRaw.failed (standard : handler.outside.isTimeout = Fault.isRawTimeout)
    (answered : handler.AnsweredRaw errand timeout stage raw) :
    ((handler.errandJob errand timeout).tried stage).value =
      .error (if raw.isTimeout then timedOut errand.operation (.raw raw) else .raw raw) := by
  obtain ⟨sentAt, link, request, call, sent, inTime, value⟩ := answered
  have tried : (handler.errandJob errand timeout).tried stage =
      handler.exchange errand true ((handler.errandJob errand timeout).told stage).remaining
        stage.instant stage.state := rfl
  rw [tried] at sent ⊢
  obtain ⟨_, _, _, rfl, ⟨node, encoded, rfl⟩, course⟩ := sentOut_of_sent sent
  rw [course, Activity.value_after, send_apply encoded, conclude_of_failed inTime value]
  exact congrArg Except.error (named_of_standard standard errand.operation (.raw raw))

theorem AnsweredRaw.meaning (plain : handler.outside.classify = Fault.classify)
    (standard : handler.outside.isTimeout = Fault.isRawTimeout)
    (answered : handler.AnsweredRaw errand timeout stage raw) :
    ((handler.errandJob errand timeout).ruling stage).meaning? =
      some (handler.meaningOf errand.operation raw) := by
  let raised : Fault := if raw.isTimeout then timedOut errand.operation (.raw raw) else .raw raw
  have noSignal : raised.isAbort = false := by
    simp only [raised]
    split <;> rfl
  have meaning : handler.classified raised = handler.meaningOf errand.operation raw := by
    simp only [raised, classified_of_plain plain, meaningOf]
    split <;> rfl
  rw [← meaning]
  exact meaning?_ruling (answered.failed standard) noSignal

end Rounds

/-- What the raw answers in a retried exchange with a certain last attempt are taken to mean. -/
structure RawAccount (handler : Handler τ) (errand : Errand τ α) (timeout : Option Nat)
    (start : Nat) (state : State τ) (last : Nat) : Prop where
  account : (handler.errandJob errand timeout).Account start state last
  -- What follows on a raw answer is decided by its own meaning, or by that of a timeout of the
  -- operation if it is a timeout of the transport.
  decides : let job := handler.errandJob errand timeout
    ∀ index ≤ last, ∀ raw,
      let stage := job.stageAt start state index
      handler.AnsweredRaw errand timeout stage raw →
        (job.ruling stage).meaning? = some (handler.meaningOf errand.operation raw)
  -- That has the variant and the flags of its own meaning exactly if no condition is overruled.
  agrees : let job := handler.errandJob errand timeout
    ∀ index ≤ last, ∀ raw,
      let stage := job.stageAt start state index
      handler.AnsweredRaw errand timeout stage raw →
        ((∃ meaning, (job.ruling stage).meaning? = some meaning ∧
          meaning.Alike (raw.classify handler.configuration.customEndpoint)) ↔ ¬ raw.Overruled)
  -- An answer with an overruled condition is worth a retry, and costs neither the link nor the
  -- session.
  overruled : let job := handler.errandJob errand timeout
    ∀ index ≤ last, ∀ raw,
      let stage := job.stageAt start state index
      handler.AnsweredRaw errand timeout stage raw → raw.Overruled →
        let raised := timedOut errand.operation (.raw raw)
        (job.ruling stage).raised? = some raised ∧
          job.judgement stage raised = ⟨.ok raised, 0, [], (job.tried stage).state⟩

/-- The meaning of a raw answer to a retried exchange decides what follows on it, except that a
timeout of the transport is taken for one of the operation whatever its condition is. -/
theorem raw_answers_judged (plain : handler.outside.classify = Fault.classify)
    (standard : handler.outside.isTimeout = Fault.isRawTimeout) (errand : Errand τ α)
    (timeout : Option Nat) (start : Nat) (state : State τ) :
    (handler.errandJob errand timeout).Unstarted start state ∨
      ∃ last, handler.RawAccount errand timeout start state last := by
  refine ((handler.errandJob errand timeout).run_account start state).imp_right ?_
  rintro ⟨last, account⟩
  refine ⟨last, account, ?_, ?_, ?_⟩
  · intro job index _ raw stage answered
    exact answered.meaning plain standard
  · intro job index _ raw stage answered
    rw [answered.meaning plain standard, ← handler.alike_meaningOf_iff errand.operation raw]
    simp only [Option.some.injEq, exists_eq_left']
  · intro job index _ raw stage answered overruled raised
    have slow : raw.isTimeout = true := decide_eq_true overruled.1
    have failed := answered.failed standard
    rw [if_pos slow] at failed
    exact ⟨Retry.Job.raised?_ruling_eq_some_iff.mpr ⟨failed, rfl⟩, judge_timedOut plain _ _ _ _⟩

def lockLostInTime : RawFailure :=
  ⟨.timeout, some RawFailure.Condition.sessionLockLost.symbol, "lock lost", true⟩

def overrules : State Rehearsal :=
  initial (some { id := "s" }) { replies := [⟨⟨.error (.raw lockLostInTime), none⟩, 1⟩] }

theorem judged_overrules :
    triesTwice.outside.classify = Fault.classify ∧
      triesTwice.outside.isTimeout = Fault.isRawTimeout ∧
      (triesTwice.exchangeRetrying peek none 0 overrules).value = some (.ok 200) ∧
      sendings (contents (triesTwice.exchangeRetrying peek none 0 overrules).notes) =
        [⟨0, none⟩, ⟨0, none⟩] ∧
      ∃ last, triesTwice.RawAccount peek none 0 overrules last :=
  ⟨rfl, rfl, rfl, rfl, (raw_answers_judged rfl rfl peek none 0 overrules).resolve_left
    (Retry.Job.not_unstarted rfl)⟩

/-- The exchange goes on with the session although the service says that its lock is lost. -/
theorem not_alike_overrules :
    let job := triesTwice.errandJob peek none
    let stage := job.stageAt 0 overrules 0
    let meaning := timedOut "peek" (.raw lockLostInTime)
    triesTwice.AnsweredRaw peek none stage lockLostInTime ∧
      (job.ruling stage).meaning? = some meaning ∧
      (meaning.retryable, meaning.shutsDown, meaning.endsSession) = (true, false, false) ∧
      lockLostInTime.classify triesTwice.configuration.customEndpoint =
        .sessionLockLost "lock lost" (some (.raw lockLostInTime)) ∧
      ¬ meaning.Alike (lockLostInTime.classify triesTwice.configuration.customEndpoint) := by
  intro job stage meaning
  let target := triesTwice.managementTarget
  let request := triesTwice.outside.address peek.message (triesTwice.associated true ⟨0, none⟩)
    triesTwice.configuration target
  let call : Call := ⟨"peek", entityManagement, Text.bytes target, none⟩
  have sent : ⟨0, .sent ⟨0, none⟩ request call⟩ ∈ (job.tried stage).notes :=
    .tail _ (.tail _ (.tail _ (.tail _ (.head _))))
  refine ⟨⟨0, ⟨0, none⟩, request, call, sent, nofun, rfl⟩, rfl, rfl, rfl, ?_⟩
  rintro ⟨other, _⟩
  cases other

end Handler
end BusLink
