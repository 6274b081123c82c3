import BusLink.Proofs.Handler.Reopening

set_option autoImplicit false

namespace BusLink.Handler

variable {τ : Type} {handler : Handler τ} {state : State τ}

/-- An instant, and the outside at it. -/
structure Scene (τ : Type) where
  instant : Nat
  outside : τ

/-- What the outside answers at a scene when it is asked for a link for a session. -/
def replied (handler : Handler τ) (session : Option Session) (scene : Scene τ) :
    Course Empty τ (Except Fault (Option String)) :=
  handler.outside.createLink (handler.linkRequest session) scene.instant scene.outside

/-- The scenes at which the outside is asked for a link time after time, with the waits of the
policy in between. -/
def scenes (handler : Handler τ) (start : Nat) (state : State τ) : Nat → Scene τ
  | 0 => ⟨start, state.outside⟩
  | count + 1 =>
    let scene := handler.scenes start state count
    let answer := handler.replied state.session scene
    ⟨handler.outside.clock.wake (scene.instant + answer.took)
        (handler.configuration.retryPolicy.delay (.ofNat (count + 1))),
      answer.state⟩

/-- What the outside answers when it is asked for the link once more after so many times. -/
def answer (handler : Handler τ) (start : Nat) (state : State τ) (index : Nat) :
    Course Empty τ (Except Fault (Option String)) :=
  handler.replied state.session (handler.scenes start state index)

def afterAnswer (handler : Handler τ) (start : Nat) (state : State τ) (index : Nat) : State τ :=
  { state with outside := (handler.answer start state index).state }

/-- A failure after which it makes sense to ask again: no signal, and retryable by its meaning. -/
def Temporary (handler : Handler τ) (answer : Except Fault (Option String)) : Prop :=
  ∃ fault, answer = .error fault ∧ fault.isAbort = false ∧
    (fault.classify handler.configuration.customEndpoint).retryable = true

/-- It asks once more after so many answers: the retries allow it, and all of them were temporary
failures. -/
def Asks (handler : Handler τ) (start : Nat) (state : State τ) (index : Nat) : Prop :=
  index ≤ handler.configuration.retries.toNat ∧
    ∀ earlier < index, handler.Temporary (handler.answer start state earlier).value

/-- The opening of a link with all that governs the attempts at it. -/
def openJob (handler : Handler τ) : Retry.Job (State τ) Unit :=
  handler.job {} fun _ => .openLink

theorem run_openJob (handler : Handler τ) : handler.openJob.run = handler.openRetrying := rfl

theorem tried_openJob (stage : Retry.Stage (State τ)) :
    handler.openJob.tried stage = handler.openLink stage.instant stage.state := rfl

/-- A handler that may be used, and neither runs nor holds a link. -/
structure State.Idle (state : State τ) : Prop where
  usable : state.shutdown = false
  vacant : state.link = none
  stopped : state.running = false

theorem State.Idle.consistent (idle : state.Idle) : state.Consistent := by
  refine ⟨?_, fun _ => idle.vacant⟩
  rw [idle.stopped, idle.vacant, Option.isSome_none]

theorem State.Idle.unlinked (idle : state.Idle) :
    ¬ (state.running = true ∧ state.link.isSome = true) := by
  rintro ⟨running, _⟩
  cases idle.stopped.symm.trans running

/-- A round with a number finds the handler as it was at the start, and the outside in its scene. -/
structure Standing (handler : Handler τ) (start : Nat) (state : State τ) (number : Nat)
    (stage : Retry.Stage (State τ)) : Prop where
  index : stage.index = number
  deadline : stage.deadline = none
  instant : stage.instant = (handler.scenes start state number).instant
  found : stage.state = { state with outside := (handler.scenes start state number).outside }

namespace Standing

variable {start number : Nat} {stage : Retry.Stage (State τ)}
variable {name : Option String} {fault : Fault}
variable (standing : handler.Standing start state number stage)

include standing

theorem asked : handler.outside.createLink (handler.linkRequest stage.state.session) stage.instant
    stage.state.outside = handler.answer start state number := by
  rw [standing.found, standing.instant]
  rfl

theorem left : { stage.state with outside := (handler.answer start state number).state } =
    handler.afterAnswer start state number := by
  rw [standing.found]
  rfl

variable (idle : state.Idle)

include idle

theorem idleAt : stage.state.Idle := by
  rw [standing.found]
  exact ⟨idle.usable, idle.vacant, idle.stopped⟩

theorem requested : linkRequests (contents (handler.openJob.tried stage).notes) =
    [handler.linkRequest state.session] := by
  have free := standing.idleAt idle
  have same : stage.state.session = state.session := by rw [standing.found]
  have asked := handler.linkRequests_openLink stage.instant stage.state
  rwa [if_neg (not_or.mpr ⟨by simp [free.usable], free.unlinked⟩), same] at asked

theorem granted (landed : (handler.answer start state number).value = .ok name) :
    handler.openJob.ruling stage = .success () ∧
      (handler.openJob.next stage).state = (handler.afterAnswer start state number).hold name := by
  have free := standing.idleAt idle
  have answered := landed
  rw [← standing.asked] at answered
  have tried := openLink_of_granted stage.instant free.usable free.unlinked answered
  rw [standing.asked, ← tried_openJob] at tried
  have ruling : handler.openJob.ruling stage = .success () :=
    Retry.Job.ruling_eq_iff.mpr (congrArg Course.value tried)
  refine ⟨ruling, ?_⟩
  rw [(Retry.Job.next_of_unjudged (congrArg Retry.Ruling.raised? ruling)).1, tried, ← standing.left]

theorem refused (refused : (handler.answer start state number).value = .error fault) :
    handler.openJob.tried stage =
      let answer := handler.answer start state number
      ⟨.error fault, answer.took,
        [⟨stage.instant, .linkRequested (handler.linkRequest stage.state.session)⟩,
          ⟨stage.instant + answer.took, .linkRefused fault⟩],
        handler.afterAnswer start state number⟩ := by
  have free := standing.idleAt idle
  have answered := refused
  rw [← standing.asked] at answered
  have tried := openLink_of_refused stage.instant free.usable free.unlinked answered
  rw [standing.asked] at tried
  rw [← standing.left]
  exact tried

theorem judgement (refused : (handler.answer start state number).value = .error fault) :
    handler.openJob.judgement stage fault =
      ⟨if (handler.classified fault).retryable then .ok (handler.classified fault)
        else .error (handler.classified fault), 0, [],
        handler.afterAnswer start state number⟩ := by
  have left := congrArg Course.state (standing.refused idle refused)
  have vacant : (handler.afterAnswer start state number).link = none := idle.vacant
  have stopped : (handler.afterAnswer start state number).running = false := idle.stopped
  rw [Retry.Job.judgement, left]
  exact judge_of_vacant vacant stopped _ fault

theorem answered_of_judged {raised : Fault}
    (judged : (handler.openJob.ruling stage).raised? = some raised) :
    (handler.answer start state number).value = .error raised := by
  have failed := (Retry.Job.raised?_ruling_eq_some_iff.mp judged).1
  cases answered : (handler.answer start state number).value with
  | ok name =>
    rw [(standing.granted idle answered).1] at judged
    cases judged
  | error fault =>
    cases failed.symm.trans (congrArg Course.value (standing.refused idle answered))
    rfl

theorem next_of_refused (refused : (handler.answer start state number).value = .error fault) :
    (handler.openJob.next stage).state = handler.afterAnswer start state number := by
  cases judged : (handler.openJob.ruling stage).raised? with
  | none =>
    rw [(Retry.Job.next_of_unjudged judged).1]
    exact congrArg Course.state (standing.refused idle refused)
  | some raised =>
    simp only [Retry.Job.next, judged]
    exact congrArg Course.state
      (standing.judgement idle (standing.answered_of_judged idle judged))

theorem unclosed : closings (contents (handler.openJob.roundNotes stage)) = [] := by
  have free := standing.idleAt idle
  have tried : closings (contents (handler.openJob.tried stage).notes) = [] :=
    (openLink_cases free.consistent free.usable).silent.2
  rw [closings, List.filterMap_eq_nil_iff] at tried ⊢
  intro what among
  obtain ⟨note, member, rfl⟩ := List.mem_map.mp among
  rcases Retry.Job.mem_roundNotes member with round | attempted | ⟨raised, judged, judging⟩
  · exact Note.closing?_of_other (Note.aboutLink_of_aside (Note.isAside_of_isRound round))
  · exact tried note.what (List.mem_map_of_mem attempted)
  · rw [standing.judgement idle (standing.answered_of_judged idle judged)] at judging
    cases judging

variable (plain : handler.outside.classify = Fault.classify)
variable (within : number ≤ handler.configuration.retries.toNat)

include plain within

/-- A temporary failure is followed by another round as long as a retry is left. -/
theorem goesOn (validated : handler.configuration.Validated)
    (temporary : handler.Temporary (handler.answer start state number).value)
    (left : number ≠ handler.configuration.retries.toNat) :
    (handler.openJob.ruling stage).ending? = none := by
  obtain ⟨fault, refused, noSignal, retryable⟩ := temporary
  have failed := congrArg Course.value (standing.refused idle refused)
  have judged := congrArg Course.value (standing.judgement idle refused)
  rw [classified_of_plain plain] at judged
  rw [← standing.index] at within left
  have unspent : ¬ handler.openJob.policy.retries < stage.retry := fun spent =>
    left (Retry.Job.index_of_retries_lt within spent)
  have admitted : handler.openJob.policy.admits stage.retry = true :=
    Retry.Policy.admits_of_sensible validated.longest stage.retry
  have tellable : handler.openJob.overflows stage.deadline stage.retry
      (handler.openJob.judgedAt stage fault) = false := by
    rw [Retry.Job.overflows, standing.deadline]
    rfl
  have allowed : handler.openJob.mayWait stage.deadline stage.retry
      (handler.openJob.judgedAt stage fault) = true := by
    rw [Retry.Job.mayWait, admitted, standing.deadline]
    rfl
  exact (Retry.Ruling.ending?_eq_none_iff _).mpr ⟨fault, _, Retry.Job.ruling_eq_iff.mpr
    ⟨failed, noSignal, judged.trans (if_pos retryable), unspent, tellable, allowed⟩⟩

variable (few : handler.configuration.retries.toNat < 2 ^ 32 - 1)

include few

/-- A failure that is no reason to ask again, or comes when no retry is left, ends the run. -/
theorem ends (refused : (handler.answer start state number).value = .error fault)
    (last : handler.Temporary (.error fault) → number = handler.configuration.retries.toNat) :
    (handler.openJob.ruling stage).ending? =
      some (.result (.error (fault.classify handler.configuration.customEndpoint).terminal)) := by
  let meaning := fault.classify handler.configuration.customEndpoint
  have failed := congrArg Course.value (standing.refused idle refused)
  have judged := congrArg Course.value (standing.judgement idle refused)
  rw [classified_of_plain plain] at judged
  rw [← standing.index] at within last
  -- A signal and a failure that is not retryable end the run at once, another one with the retries.
  cases signal : fault.isAbort with
  | true =>
    obtain ⟨meaningful, patient⟩ := Fault.plain_of_isAbort signal
    have ruling : handler.openJob.ruling stage = .abort fault :=
      Retry.Job.ruling_eq_iff.mpr ⟨failed, signal⟩
    rw [Fault.classify_of_not_isRaw meaningful, Fault.terminal_of_not_isTimeout patient, ruling]
    rfl
  | false =>
    cases retryable : meaning.retryable with
    | true =>
      have spent : handler.openJob.policy.retries < stage.retry :=
        (handler.openJob.retries_lt_retry_iff stage within (by omega)).mpr
          (last ⟨fault, rfl, signal, retryable⟩)
      have ruling : handler.openJob.ruling stage = .exhausted fault meaning :=
        Retry.Job.ruling_eq_iff.mpr ⟨failed, signal, judged.trans (if_pos retryable), spent⟩
      rw [ruling]
      rfl
    | false =>
      have patient : meaning.isTimeout = false := by
        rw [← Bool.not_eq_true]
        intro timeout
        cases (Fault.retryable_of_isTimeout timeout).symm.trans retryable
      have ruling : handler.openJob.ruling stage = .verdict fault meaning :=
        Retry.Job.ruling_eq_iff.mpr
          ⟨failed, signal, judged.trans (if_neg (by simp [meaning, retryable]))⟩
      rw [Fault.terminal_of_not_isTimeout patient, ruling]
      rfl

theorem temporary (goesOn : (handler.openJob.ruling stage).ending? = none) :
    handler.Temporary (handler.answer start state number).value := by
  cases answered : (handler.answer start state number).value with
  | ok name =>
    rw [(standing.granted idle answered).1] at goesOn
    cases goesOn
  | error fault =>
    by_contra lasting
    have ends := standing.ends idle plain within few answered fun temporary =>
      absurd temporary lasting
    cases ends.symm.trans goesOn

omit plain within few

/-- So the next round stands as this one did, in the next scene. -/
theorem next (goesOn : (handler.openJob.ruling stage).ending? = none) :
    handler.Standing start state (number + 1) (handler.openJob.next stage) := by
  obtain ⟨raised, meaning, ruling⟩ := (Retry.Ruling.ending?_eq_none_iff _).mp goesOn
  have refused := standing.answered_of_judged idle (congrArg Retry.Ruling.raised? ruling)
  have tried := standing.refused idle refused
  have judged := standing.judgement idle refused
  refine ⟨congrArg (· + 1) standing.index, standing.deadline, ?_,
    standing.next_of_refused idle refused⟩
  simp only [Retry.Job.next, ruling, Retry.Job.judgedAt, Retry.Job.triedAt, judged, tried,
    standing.instant, Retry.Stage.retry, standing.index]
  rfl

end Standing

/-- What a retried opening comes to when an answer is a link. -/
structure Landed (handler : Handler τ) (start : Nat) (state : State τ) (index : Nat)
    (name : Option String) : Prop where
  value : (handler.openRetrying start state).value = some (.ok ())
  requests : linkRequests (contents (handler.openRetrying start state).notes) =
    List.replicate (index + 1) (handler.linkRequest state.session)
  link : (handler.openRetrying start state).state.link = some ⟨state.opened, name⟩
  running : (handler.openRetrying start state).state.running = true

/-- What a retried opening comes to when the last answer is a failure. -/
structure Stranded (handler : Handler τ) (start : Nat) (state : State τ) (last : Nat)
    (fault : Fault) : Prop where
  asks : handler.Asks start state last
  answered : (handler.answer start state last).value = .error fault
  -- It is the first failure that is not temporary, or no retry is left after it.
  final : handler.Temporary (.error fault) → last = handler.configuration.retries.toNat
  value : (handler.openRetrying start state).value =
    some (.error (fault.classify handler.configuration.customEndpoint).terminal)
  requests : linkRequests (contents (handler.openRetrying start state).notes) =
    List.replicate (last + 1) (handler.linkRequest state.session)
  -- The handler stays as it was, with its session, whatever the failures were.
  left : (handler.openRetrying start state).state = handler.afterAnswer start state last
  link : (handler.openRetrying start state).state.link = none
  running : (handler.openRetrying start state).state.running = false
  unclosed : closings (contents (handler.openRetrying start state).notes) = []

/-- What a retried opening of a link comes to. -/
structure OpensRetrying (handler : Handler τ) (start : Nat) (state : State τ) : Prop where
  -- With a link in hand it asks for none and changes nothing.
  kept : state.link.isSome = true → ∃ context : Retry.Context, context.attempt = 0 ∧
    handler.openRetrying start state =
      ⟨some (.ok ()), 0, [⟨start, .attempt context⟩], state⟩
  -- It succeeds exactly if an answer is a link and all before are temporary failures.
  succeeds : state.link = none →
    ((handler.openRetrying start state).value = some (.ok ()) ↔
      ∃ index name, handler.Asks start state index ∧
        (handler.answer start state index).value = .ok name)
  landed : state.link = none → ∀ index name, handler.Asks start state index →
    (handler.answer start state index).value = .ok name → handler.Landed start state index name
  stranded : state.link = none →
    (¬ ∃ index name, handler.Asks start state index ∧
      (handler.answer start state index).value = .ok name) →
    ∃ last fault, handler.Stranded start state last fault

/-- A run with a certain last round, seen from the answers that it gets. -/
structure Questioned (handler : Handler τ) (start : Nat) (state : State τ) (last : Nat) :
    Prop where
  account : handler.openJob.Account start state last
  standing : ∀ index ≤ last,
    handler.Standing start state index (handler.openJob.stageAt start state index)
  asks_iff : ∀ index, handler.Asks start state index ↔ index ≤ last

/-- A run asks as often as the retries and the answers allow. -/
theorem exists_questioned (idle : state.Idle) (plain : handler.outside.classify = Fault.classify)
    (few : handler.configuration.retries.toNat < 2 ^ 32 - 1)
    (validated : handler.configuration.Validated) (start : Nat) :
    ∃ last, handler.Questioned start state last := by
  let job := handler.openJob
  have starts : job.starts start = true := rfl
  obtain ⟨last, account⟩ := Retry.Job.account_of_starts starts state
  have within (index : Nat) (reached : index ≤ last) :
      index ≤ handler.configuration.retries.toNat := Nat.le_trans reached account.within
  have standing (index : Nat) (reached : index ≤ last) :
      handler.Standing start state index (job.stageAt start state index) := by
    induction index with
    | zero => exact ⟨rfl, rfl, rfl, rfl⟩
    | succ index ih =>
      exact (ih (Nat.le_of_succ_le reached)).next idle (account.goesOn index reached)
  have temporary (index : Nat) (before : index < last) :
      handler.Temporary (handler.answer start state index).value :=
    (standing index (Nat.le_of_lt before)).temporary idle plain (within index (Nat.le_of_lt before))
      few (account.goesOn index before)
  refine ⟨last, account, standing, fun index => ⟨?_, ?_⟩⟩
  · rintro ⟨allowed, earlier⟩
    by_contra beyond
    -- The run would have gone on from its last round.
    have left : last ≠ handler.configuration.retries.toNat := by omega
    have goesOn := (standing last (Nat.le_refl last)).goesOn idle plain account.within validated
      (earlier last (by omega)) left
    exact left (account.overrun goesOn).1
  · intro reached
    exact ⟨within index reached, fun earlier before =>
      temporary earlier (Nat.lt_of_lt_of_le before reached)⟩

namespace Questioned

variable {start last index : Nat} {name : Option String} {fault : Fault}
variable (questioned : handler.Questioned start state last)

include questioned

theorem stood : handler.Standing start state last (handler.openJob.stageAt start state last) :=
  questioned.standing last (Nat.le_refl last)

theorem asks : handler.Asks start state last :=
  (questioned.asks_iff last).mpr (Nat.le_refl last)

theorem eq_last (asks : handler.Asks start state index)
    (landed : (handler.answer start state index).value = .ok name) : index = last := by
  have reached := (questioned.asks_iff index).mp asks
  by_contra other
  obtain ⟨fault, refused, _⟩ := questioned.asks.2 index (by omega)
  cases landed.symm.trans refused

theorem final (temporary : handler.Temporary (handler.answer start state last).value) :
    last = handler.configuration.retries.toNat := by
  obtain ⟨allowed, earlier⟩ := questioned.asks
  by_contra left
  have again : handler.Asks start state (last + 1) := by
    refine ⟨by omega, fun index before => ?_⟩
    rcases Nat.lt_succ_iff_lt_or_eq.mp before with before | rfl
    · exact earlier index before
    · exact temporary
  exact Nat.not_succ_le_self last ((questioned.asks_iff (last + 1)).mp again)

variable (idle : state.Idle)

include idle

theorem requests : linkRequests (contents (handler.openRetrying start state).notes) =
    List.replicate (last + 1) (handler.linkRequest state.session) := by
  have requested : handler.openJob.AttemptsOnly Note.requested? :=
    attemptsOnly_job Note.ofAttempts_requested? _ _
  have single (index : Nat) (reached : index ∈ List.range (last + 1)) :
      (contents (handler.openJob.tried (handler.openJob.stageAt start state index)).notes).filterMap
        Note.requested? = [handler.linkRequest state.session] := by
    have standing := questioned.standing index (Nat.le_of_lt_succ (List.mem_range.mp reached))
    exact standing.requested idle
  rw [← run_openJob, linkRequests, requested.run questioned.account, List.flatMap_congr single,
    ← List.map_eq_flatMap, List.map_const', List.length_range]

theorem unclosed : closings (contents (handler.openRetrying start state).notes) = [] := by
  rw [← run_openJob, closings, questioned.account.notes, contents, List.map_flatMap,
    List.filterMap_flatMap, List.flatMap_eq_nil_iff]
  intro index reached
  exact (questioned.standing index (Nat.le_of_lt_succ (List.mem_range.mp reached))).unclosed idle

theorem landed (landed : (handler.answer start state last).value = .ok name) :
    handler.Landed start state last name := by
  obtain ⟨ruling, next⟩ := questioned.stood.granted idle landed
  have left : (handler.openRetrying start state).state =
      (handler.afterAnswer start state last).hold name := questioned.account.state.trans next
  have ends := congrArg Retry.Ruling.ending? ruling
  exact {
    value := (questioned.account.ends (Nat.le_refl last) ends).2
    requests := questioned.requests idle
    link := congrArg State.link left
    running := congrArg State.running left }

theorem stranded (plain : handler.outside.classify = Fault.classify)
    (few : handler.configuration.retries.toNat < 2 ^ 32 - 1)
    (refused : (handler.answer start state last).value = .error fault) :
    handler.Stranded start state last fault := by
  have final : handler.Temporary (.error fault) →
      last = handler.configuration.retries.toNat := by
    rw [← refused]
    exact questioned.final
  have ends := questioned.stood.ends idle plain questioned.account.within few refused final
  have left : (handler.openRetrying start state).state = handler.afterAnswer start state last :=
    questioned.account.state.trans (questioned.stood.next_of_refused idle refused)
  exact {
    asks := questioned.asks
    answered := refused
    final := final
    value := (questioned.account.ends (Nat.le_refl last) ends).2
    requests := questioned.requests idle
    left := left
    link := (congrArg State.link left).trans idle.vacant
    running := (congrArg State.running left).trans idle.stopped
    unclosed := questioned.unclosed idle }

end Questioned

/-- A retried opening asks the outside until an answer is no temporary failure or no retry is left.
It succeeds exactly if that answer is a link, and a failure costs the handler nothing. -/
theorem opens_retrying (reachable : handler.Reachable state) (usable : state.shutdown = false)
    (plain : handler.outside.classify = Fault.classify)
    (validated : handler.configuration.Validated)
    (few : handler.configuration.retries.toNat < 2 ^ 32 - 1) (start : Nat) :
    handler.OpensRetrying start state := by
  have running := reachable.consistent.running
  have idle (vacant : state.link = none) : state.Idle :=
    ⟨usable, vacant, by rw [running, vacant, Option.isSome_none]⟩
  refine ⟨?_, ?_, ?_, ?_⟩
  · intro held
    have opened (context : Retry.Context) :
        handler.openJob.attempt context start state = ⟨.ok (), 0, [], state⟩ :=
      openLink_of_open start usable (running.trans held) held
    exact Retry.Job.run_of_accepted rfl opened
  · intro vacant
    obtain ⟨last, questioned⟩ := exists_questioned (idle vacant) plain few validated start
    constructor
    · intro success
      cases answered : (handler.answer start state last).value with
      | ok name => exact ⟨last, name, questioned.asks, answered⟩
      | error fault =>
        have value := (questioned.stranded (idle vacant) plain few answered).value
        cases success.symm.trans value
    · rintro ⟨index, name, asks, landed⟩
      cases questioned.eq_last asks landed
      exact (questioned.landed (idle vacant) landed).value
  · intro vacant index name asks landed
    obtain ⟨last, questioned⟩ := exists_questioned (idle vacant) plain few validated start
    cases questioned.eq_last asks landed
    exact questioned.landed (idle vacant) landed
  · intro vacant unlinked
    obtain ⟨last, questioned⟩ := exists_questioned (idle vacant) plain few validated start
    cases answered : (handler.answer start state last).value with
    | ok name => exact absurd ⟨last, name, questioned.asks, answered⟩ unlinked
    | error fault => exact ⟨last, fault, questioned.stranded (idle vacant) plain few answered⟩

/-- A handler for a session that finds no connection so many times. -/
def findsNone (times : Nat) : State Rehearsal :=
  initial (some { id := "s" }) { openFaults := [⟨.connection "gone" none, times⟩] }

/-- With one retry it gets over one failure and not over two, which leave the session alone. -/
theorem opens_retrying_findsNone :
    let once := triesTwice.openRetrying 0 (findsNone 1)
    let twice := triesTwice.openRetrying 0 (findsNone 2)
    triesTwice.Reachable (findsNone 1) ∧ (findsNone 1).shutdown = false ∧
      triesTwice.outside.classify = Fault.classify ∧ triesTwice.configuration.Validated ∧
      triesTwice.configuration.retries.toNat < 2 ^ 32 - 1 ∧
      once.value = some (.ok ()) ∧ once.state.link = some ⟨0, none⟩ ∧
      twice.value = some (.error (.connection "gone" none)) ∧ twice.state.session = some { id := "s" } ∧
      triesTwice.OpensRetrying 0 (findsNone 1) ∧ triesTwice.OpensRetrying 0 (findsNone 2) := by
  intro once twice
  have few : triesTwice.configuration.retries.toNat < 2 ^ 32 - 1 := by decide
  have validated := built_triesTwice.validated
  exact ⟨.initial _ _, rfl, rfl, validated, few, rfl, rfl, rfl, rfl,
    opens_retrying (.initial _ _) rfl rfl validated few 0,
    opens_retrying (.initial _ _) rfl rfl validated few 0⟩

end BusLink.Handler
