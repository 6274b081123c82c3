import BusLink.Proofs.Fault.Meaning
import BusLink.Proofs.Handler.Running
import BusLink.Proofs.Retry.Waits

set_option autoImplicit false

namespace BusLink

namespace Fault

theorem retryable_of_isTimeout {fault : Fault} (timeout : fault.isTimeout = true) :
    fault.retryable = true := by
  cases fault with
  | operationTimeout reason cause => rfl
  | _ => cases timeout

theorem endsSession_of_isTimeout {fault : Fault} (timeout : fault.isTimeout = true) :
    fault.endsSession = false := by
  cases fault with
  | operationTimeout reason cause => rfl
  | _ => cases timeout

/-- A lost connection is the only fault that ends a session and is worth a retry. -/
theorem connection_of_endsSession {fault : Fault} (ends : fault.endsSession = true)
    (retryable : fault.retryable = true) : ∃ reason cause, fault = .connection reason cause := by
  cases fault with
  | connection reason cause => exact ⟨reason, cause, rfl⟩
  | sessionLockLost reason cause => cases retryable
  | _ => cases ends

theorem isRaw_terminal {fault : Fault} (meaningful : fault.isRaw = false) :
    fault.terminal.isRaw = false := by
  unfold terminal
  split
  · rfl
  · exact meaningful

theorem isTimeout_terminal (fault : Fault) : fault.terminal.isTimeout = fault.isTimeout := by
  unfold terminal
  split
  · rename_i timeout
    exact timeout.symm
  · rfl

theorem terminal_of_isTimeout {fault : Fault} (timeout : fault.isTimeout = true) :
    fault.terminal = fault.withRemediation := if_pos timeout

theorem terminal_of_not_isTimeout {fault : Fault} (other : fault.isTimeout = false) :
    fault.terminal = fault := by
  rw [terminal, if_neg (by simp [other])]

theorem causes_withRemediation (fault : Fault) :
    fault.withRemediation.causes = fault :: fault.causes := by
  simp only [withRemediation, causes]

theorem plain_of_isAbort {fault : Fault} (signal : fault.isAbort = true) :
    fault.isRaw = false ∧ fault.isTimeout = false := by
  cases fault with
  | iterationStopped => exact ⟨rfl, rfl⟩
  | missingDependency reason => exact ⟨rfl, rfl⟩
  | _ => cases signal

end Fault

namespace Handler

variable {τ α : Type} {handler : Handler τ} {state : State τ}

theorem value_settle (fault : Fault) (now : Nat) (state : State τ) :
    (handler.settle fault now state).value =
      if fault.retryable then .ok fault else .error fault := by
  cases teardown : fault.shutsDown with
  | true => rw [settle_of_shutsDown now teardown]
  | false => rw [settle_of_not_shutsDown now teardown]

/-- A fault is judged to be worth a retry if it is retryable and takes no session with it. -/
theorem value_judge (raised : Fault) (now : Nat) (state : State τ) :
    (handler.judge raised now state).value =
      if (handler.classified raised).retryable = true ∧ ¬ handler.Fatal state raised then
        .ok (handler.classified raised)
      else .error (handler.classified raised) := by
  by_cases fatal : handler.Fatal state raised
  · rw [if_neg (fun both => both.2 fatal)]
    obtain ⟨bound, running, ends⟩ := fatal
    obtain ⟨session, bound⟩ := Option.isSome_iff_exists.mp bound
    rw [judge_of_fatal now bound running ends]
  · rw [judge_of_not_fatal now fatal, value_settle]
    simp only [fatal, not_false_eq_true, and_true]

theorem eq_of_judge_ok {raised fault : Fault} {now : Nat}
    (judged : (handler.judge raised now state).value = .ok fault) :
    fault = handler.classified raised ∧ fault.retryable = true ∧ ¬ handler.Fatal state raised := by
  rw [value_judge] at judged
  split at judged
  · rename_i worth
    cases judged
    exact ⟨rfl, worth⟩
  · cases judged

theorem judge_eq_ok_iff (raised : Fault) (now : Nat) (state : State τ) :
    (handler.judge raised now state).value = .ok (handler.classified raised) ↔
      (handler.classified raised).retryable = true ∧ ¬ handler.Fatal state raised := by
  constructor
  · intro judged
    exact (eq_of_judge_ok judged).2
  · intro worth
    rw [value_judge, if_pos worth]

theorem eq_of_judge_error {raised fault : Fault} {now : Nat}
    (judged : (handler.judge raised now state).value = .error fault) :
    fault = handler.classified raised ∧
      (fault.retryable = true → handler.Fatal state raised) := by
  rw [value_judge] at judged
  split at judged
  · cases judged
  · rename_i refused
    cases judged
    exact ⟨rfl, fun retryable => Decidable.not_not.mp fun spared => refused ⟨retryable, spared⟩⟩

/-- Why a call ends with a fault that is worth a retry. -/
inductive Cornered (job : Retry.Job (State τ) α) (stage : Retry.Stage (State τ))
    (raised meaning : Fault) : Prop where
  -- No retry is left.
  | spent (last : stage.index = job.policy.retries.toNat)
  -- The next wait would be over after the deadline.
  | late (limit : Nat) (deadline : stage.deadline = some limit)
      (missed : limit < job.judgedAt stage raised + job.policy.delay stage.retry)
  -- The connection of a running session handler is lost.
  | cutOff (session : Session) (reason : String) (cause : Option Fault)
      (bound : (job.tried stage).state.session = some session)
      (running : (job.tried stage).state.running = true)
      (lost : meaning = .connection reason cause)

/-- How the last attempt of a call leads to the fault that the caller gets. -/
inductive Failure (handler : Handler τ) (job : Retry.Job (State τ) α)
    (stage : Retry.Stage (State τ)) : Fault → Prop where
  -- A signal of the caller goes through untouched.
  | signal (raised : Fault) (failed : (job.tried stage).value = .error raised)
      (signal : raised.isAbort = true) : Failure handler job stage raised
  -- Any other fault gets its meaning, and a timeout gets advice.
  | classified (raised meaning : Fault) (failed : (job.tried stage).value = .error raised)
      (noSignal : raised.isAbort = false)
      (means : meaning = raised.classify handler.configuration.customEndpoint)
      (cornered : meaning.retryable = true → Cornered job stage raised meaning) :
      Failure handler job stage
        (if meaning.isTimeout then meaning.withRemediation else meaning)

section Rounds

variable {terms : Retry.Terms} {attempt : Retry.Context → Program τ (Except Fault α)}
variable {stage : Retry.Stage (State τ)}

theorem classified_of_plain (plain : handler.outside.classify = Fault.classify) (raised : Fault) :
    handler.classified raised = raised.classify handler.configuration.customEndpoint := by
  rw [classified, plain]

/-- The judgement ends no call with a timeout, and with a retryable fault for a session only. -/
theorem failure_of_verdict (plain : handler.outside.classify = Fault.classify)
    {raised fault : Fault}
    (ruling : (handler.job terms attempt).ruling stage = .verdict raised fault) :
    handler.Failure (handler.job terms attempt) stage fault := by
  obtain ⟨failed, noSignal, judged⟩ := Retry.Job.ruling_eq_iff.mp ruling
  obtain ⟨means, fatal⟩ := eq_of_judge_error judged
  have patient : fault.isTimeout = false := by
    rw [← Bool.not_eq_true]
    intro timeout
    have ends := (fatal (Fault.retryable_of_isTimeout timeout)).2.2
    rw [← means, Fault.endsSession_of_isTimeout timeout] at ends
    cases ends
  have unchanged : (if fault.isTimeout then fault.withRemediation else fault) = fault :=
    Fault.terminal_of_not_isTimeout patient
  rw [← unchanged]
  refine .classified raised fault failed noSignal (means.trans (classified_of_plain plain raised)) ?_
  intro retryable
  obtain ⟨bound, running, ends⟩ := fatal retryable
  obtain ⟨session, bound⟩ := Option.isSome_iff_exists.mp bound
  rw [← means] at ends
  obtain ⟨reason, cause, lost⟩ := Fault.connection_of_endsSession ends retryable
  exact .cutOff session reason cause bound running lost

/-- How a round that ends a call leads to the fault of the call. -/
theorem failure_of_result (built : handler.Built)
    (plain : handler.outside.classify = Fault.classify) {fault : Fault}
    (within : stage.index ≤ handler.configuration.retries.toNat)
    (ends : ((handler.job terms attempt).ruling stage).ending? = some (.result (.error fault))) :
    handler.Failure (handler.job terms attempt) stage fault := by
  have rules := (handler.job terms attempt).ruling_rules stage
  cases ruling : (handler.job terms attempt).ruling stage with
  | success value =>
    rw [ruling] at ends
    cases ends
  | abort raised =>
    rw [ruling] at ends rules
    cases ends
    exact .signal fault rules.1 rules.2
  | verdict raised judged =>
    have same := ends
    rw [ruling] at same
    cases same
    exact failure_of_verdict plain ruling
  | exhausted raised judged =>
    rw [ruling] at ends rules
    cases ends
    obtain ⟨failed, noSignal, worth, spent⟩ := rules
    have means := (eq_of_judge_ok worth).1.trans (classified_of_plain plain raised)
    refine .classified raised judged failed noSignal means fun _ => .spent ?_
    exact Retry.Job.index_of_retries_lt within spent
  | timedOut raised judged =>
    rw [ruling] at ends rules
    cases ends
    obtain ⟨failed, noSignal, worth, _, _, refused⟩ := rules
    have means := (eq_of_judge_ok worth).1.trans (classified_of_plain plain raised)
    have admitted : (handler.job terms attempt).policy.admits stage.retry = true :=
      built.admits stage.retry
    rw [Retry.Job.mayWait, admitted, Bool.true_and] at refused
    cases deadline : stage.deadline with
    | none =>
      rw [deadline] at refused
      cases refused
    | some limit =>
      rw [deadline] at refused
      refine .classified raised judged failed noSignal means fun _ => .late limit deadline ?_
      simpa using refused
  | brokenOff raised judged | goesOn raised judged =>
    rw [ruling] at ends
    cases ends

end Rounds

/-- All that is to be said of a call that failed with a certain attempt. -/
structure FailureAccount (handler : Handler τ) (terms : Retry.Terms)
    (attempt : Retry.Context → Program τ (Except Fault α)) (start : Nat) (state : State τ)
    (fault : Fault) (last : Nat) : Prop where
  account : (handler.job terms attempt).Account start state last
  failure : let job := handler.job terms attempt
    handler.Failure job (job.stageAt start state last) fault
  meaningful : fault.isRaw = false
  advised : ∀ reason cause, fault = .operationTimeout reason cause → reason = Fault.remediation
  -- A timeout is wrapped once, whatever the attempts before the last one came to.
  once : let job := handler.job terms attempt
    fault.isTimeout = true → ∃ raised,
      (job.tried (job.stageAt start state last)).value = .error raised ∧
        fault.causes = raised.classify handler.configuration.customEndpoint ::
          (raised.classify handler.configuration.customEndpoint).causes

theorem Failure.isRaw {job : Retry.Job (State τ) α} {stage : Retry.Stage (State τ)} {fault : Fault}
    (failure : handler.Failure job stage fault) : fault.isRaw = false := by
  cases failure with
  | signal _ failed signal => exact (Fault.plain_of_isAbort signal).1
  | classified raised meaning failed noSignal means cornered =>
    rw [means]
    exact Fault.isRaw_terminal (Fault.isRaw_classify _ raised)

theorem Failure.timeout {job : Retry.Job (State τ) α} {stage : Retry.Stage (State τ)}
    {fault : Fault} (failure : handler.Failure job stage fault) (timeout : fault.isTimeout = true) :
    ∃ raised, (job.tried stage).value = .error raised ∧
      fault = (raised.classify handler.configuration.customEndpoint).withRemediation := by
  cases failure with
  | signal _ failed signal =>
    rw [(Fault.plain_of_isAbort signal).2] at timeout
    cases timeout
  | classified raised meaning failed noSignal means cornered =>
    have slow : meaning.isTimeout = true := (Fault.isTimeout_terminal meaning).symm.trans timeout
    refine ⟨raised, failed, ?_⟩
    rw [← means]
    exact Fault.terminal_of_isTimeout slow

/-- A call that fails hands over the signal or the classified fault of its last attempt, a timeout
with advice, and nothing else. -/
theorem retried_failure (built : handler.Built) (plain : handler.outside.classify = Fault.classify)
    (terms : Retry.Terms) (attempt : Retry.Context → Program τ (Except Fault α)) (start : Nat)
    (state : State τ) (fault : Fault)
    (failed : ((Program.retried terms attempt).run handler start state).value =
      some (.error fault)) :
    ∃ last, handler.FailureAccount terms attempt start state fault last := by
  let job := handler.job terms attempt
  obtain ⟨last, account, ends⟩ := Retry.Job.account_of_value failed
  have within : (job.stageAt start state last).index ≤ handler.configuration.retries.toNat := by
    rw [Retry.Job.index_stageAt]
    exact account.within
  have failure : handler.Failure job (job.stageAt start state last) fault :=
    failure_of_result built plain within ends
  refine ⟨last, account, failure, failure.isRaw, ?_, ?_⟩
  · rintro reason cause rfl
    obtain ⟨raised, _, advice⟩ := failure.timeout rfl
    rw [Fault.withRemediation] at advice
    cases advice
    rfl
  · intro job timeout
    obtain ⟨raised, failed, advice⟩ := failure.timeout timeout
    refine ⟨raised, failed, ?_⟩
    rw [advice, Fault.causes_withRemediation]

/-- A handler that tries again once. -/
def triesTwice : Handler Rehearsal :=
  { onStage with configuration := { onStage.configuration with retries := 1 } }

theorem built_triesTwice : triesTwice.Built :=
  ⟨{ host := "space.example", entityName := "orders", credential := .external
     options := { retries := 1, retryMode := .fixed, waitUnit := .zero, longestWait := .zero
                  encoding := "utf-8" } },
    "servicebus.rs-00000000", "linux", rfl⟩

/-- Every attempt runs out of time. -/
def tooSlow : Retry.Context → Program Rehearsal (Except Fault Json) :=
  fun _ => .apart (Rehearsal.finish ⟨[], 0, .error .elapsed⟩)

theorem failure_tooSlow :
    triesTwice.Built ∧ triesTwice.outside.classify = Fault.classify ∧
      ((Program.retried {} tooSlow).run triesTwice 0 (initial none {})).value =
        some (.error (.withRemediation (.operationTimeout "deadline has elapsed" (some .elapsed)))) ∧
      ∃ last, triesTwice.FailureAccount {} tooSlow 0 (initial none {})
        (.withRemediation (.operationTimeout "deadline has elapsed" (some .elapsed))) last :=
  ⟨built_triesTwice, rfl, rfl,
    retried_failure built_triesTwice rfl {} tooSlow 0 (initial none {}) _ rfl⟩

end Handler
end BusLink
