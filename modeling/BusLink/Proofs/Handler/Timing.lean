import BusLink.Proofs.Handler.Reopening
import BusLink.Proofs.Retry.Budget

set_option autoImplicit false

namespace BusLink

/-- A request is sent by the tick at or after a deadline, may take no longer than what is left until
the deadline when it is sent, and is over by that tick. -/
structure KeepsTo (limit sentAt : Nat) (timeout : Option Nat) (endedAt : Nat) : Prop where
  sent : sentAt ≤ Clock.nextTick limit
  told : ∃ allowed, timeout = some allowed ∧ allowed ≤ limit - sentAt
  ended : endedAt ≤ Clock.nextTick limit

namespace Clock

variable {limit begun opening endedAt : Nat} (clock : Clock)

theorem wake_remaining_le (opening : Nat) (inTime : begun ≤ nextTick limit) :
    clock.wake (begun + opening) (limit - begun) ≤ nextTick (nextTick limit + opening) := by
  have ahead := le_nextTick limit
  apply clock.wake_le_nextTick
  omega

/-- With nothing lost before it a wait for what is left is over by the tick at or after the
deadline. -/
theorem wake_left_le (inTime : begun ≤ nextTick limit) :
    clock.wake begun (limit - begun) ≤ nextTick limit := by
  by_cases left : begun ≤ limit
  · apply clock.wake_le_nextTick
    omega
  · have none : limit - begun = 0 := by omega
    rw [none, wake_zero]
    exact inTime

/-- A request that goes out some time after its timeout was set keeps to the deadline exactly if no
time was lost, or if there was nothing left to lose and it is sent in time all the same. -/
theorem keepsTo_iff (inTime : begun ≤ nextTick limit)
    (cutOff : endedAt ≤ clock.wake (begun + opening) (limit - begun)) :
    KeepsTo limit (begun + opening) (some (limit - begun)) endedAt ↔
      opening = 0 ∨ limit ≤ begun ∧ begun + opening ≤ nextTick limit := by
  constructor
  · rintro ⟨sent, ⟨allowed, told, fits⟩, _⟩
    cases told
    omega
  · rintro (rfl | ⟨spent, sent⟩)
    · have ended := clock.wake_left_le inTime
      exact ⟨inTime, ⟨_, rfl, by omega⟩, Nat.le_trans cutOff ended⟩
    · have none : limit - begun = 0 := by omega
      rw [none, wake_zero] at cutOff
      refine ⟨sent, ⟨_, rfl, ?_⟩, Nat.le_trans cutOff sent⟩
      omega

end Clock

namespace Handler

variable {τ α : Type} {handler : Handler τ} {state : State τ} {now : Nat}

theorem took_openLink (handler : Handler τ) (now : Nat) (state : State τ) :
    (handler.openLink now state).took =
      if state.shutdown = true ∨ state.running = true ∧ state.link.isSome = true then 0
      else (handler.outside.createLink (handler.linkRequest state.session) now
        state.outside).took := by
  cases handler.opening now state with
  | shut shutdown course => rw [course, if_pos (.inl shutdown)]
  | already usable held course => rw [course, if_pos (.inr held)]
  | refused fault usable vacant course | granted name usable vacant course =>
    rw [course, if_neg (not_or.mpr ⟨by simp [usable], vacant⟩)]

section Requests

variable {link : Link} {request : Request} {call : Call} {errand : Errand τ α}

theorem took_conclude :
    (handler.conclude errand link request call now state).took =
      (handler.deliver link request call now state).took := by
  cases delivered : (handler.deliver link request call now state).value with
  | error raised => rw [conclude_of_error delivered]
  | ok response => rw [conclude_of_ok delivered]

theorem took_deliver_le {limit : Nat} (handler : Handler τ) (link : Link) (request : Request)
    (now : Nat) (state : State τ) (limited : call.timeout = some limit) :
    now + (handler.deliver link request call now state).took ≤
      handler.outside.clock.wake now limit := by
  rw [deliver_of_limited limited]
  exact Activity.took_within_le _ limit _ now state.outside

end Requests

section Errands

variable {errand : Errand τ α} {keepAlive : Bool} {timeout : Option Nat}
variable {sentAt : Nat} {link : Link} {request : Request} {call : Call}

/-- The request of an exchange goes out when the link is open, with the timeout of the exchange,
which is over when the request is. -/
structure Dispatched (handler : Handler τ) (errand : Errand τ α) (keepAlive : Bool)
    (timeout : Option Nat) (now : Nat) (state : State τ) (sentAt : Nat) (link : Link)
    (request : Request) (call : Call) : Prop where
  opened : (handler.openLink now state).value = .ok ()
  held : (handler.openLink now state).state.link = some link
  sent : sentAt = now + (handler.openLink now state).took
  told : call.timeout = timeout
  ended : now + (handler.exchange errand keepAlive timeout now state).took =
    sentAt + (handler.deliver link request call sentAt (handler.openLink now state).state).took

theorem dispatched_of_sent
    (sent : ⟨sentAt, .sent link request call⟩ ∈
      (handler.exchange errand keepAlive timeout now state).notes) :
    handler.Dispatched errand keepAlive timeout now state sentAt link request call := by
  obtain ⟨opened, held, atOnce, rfl, ⟨node, encoded, rfl⟩, course⟩ := sentOut_of_sent sent
  refine ⟨opened, held, atOnce, rfl, ?_⟩
  rw [course, send_apply encoded, Activity.took_after, took_conclude, ← Nat.add_assoc, ← atOnce]

end Errands

/-- How the request of an attempt is timed in a retried exchange with a deadline. -/
structure Timed (handler : Handler τ) (errand : Errand τ α) (budget limit : Nat)
    (stage : Retry.Stage (State τ)) (sentAt : Nat) (link : Link) (request : Request)
    (call : Call) : Prop where
  -- The attempt starts by the tick at or after the deadline.
  begun : stage.instant ≤ Clock.nextTick limit
  -- The request gets what was left when the attempt started.
  dispatched : handler.Dispatched errand true (some (limit - stage.instant)) stage.instant
    stage.state sentAt link request call
  -- The attempt is over with its request, and that is cut off when its timer goes off.
  cutOff : (handler.errandJob errand (some budget)).triedAt stage ≤
    handler.outside.clock.wake sentAt (limit - stage.instant)
  -- The request keeps to the deadline exactly if no time was lost by opening a link, or if the
  -- deadline had passed before and the link came by the tick after it.
  kept : KeepsTo limit sentAt call.timeout
      ((handler.errandJob errand (some budget)).triedAt stage) ↔
    (handler.openLink stage.instant stage.state).took = 0 ∨
      limit ≤ stage.instant ∧ sentAt ≤ Clock.nextTick limit
  -- A link that is there, or comes at once, costs no time.
  prompt : (stage.state.running = true ∧ stage.state.link.isSome = true) ∨
      (handler.outside.createLink (handler.linkRequest stage.state.session) stage.instant
        stage.state.outside).took = 0 →
    (handler.openLink stage.instant stage.state).took = 0
  -- What the request gets too much is no more than the opening of its link took.
  late : let opening := (handler.openLink stage.instant stage.state).took
    sentAt ≤ Clock.nextTick limit + opening ∧
      limit - stage.instant ≤ limit - sentAt + opening ∧
      (handler.errandJob errand (some budget)).triedAt stage ≤
        Clock.nextTick (Clock.nextTick limit + opening)

section Rounds

variable {errand : Errand τ α} {budget limit : Nat} {stage : Retry.Stage (State τ)}
variable {sentAt : Nat} {link : Link} {request : Request} {call : Call}

theorem deadline?_errandJob (handler : Handler τ) (errand : Errand τ α) (positive : 0 < budget)
    (start : Nat) :
    (handler.errandJob errand (some budget)).terms.deadline? start = some (start + budget) := by
  have given : (some budget).filter (· ≠ 0) = some budget :=
    Option.filter_some_pos (by simpa using Nat.ne_of_gt positive)
  exact Retry.Terms.deadline?_of_budget rfl given positive start

theorem tried_errandJob (deadline : stage.deadline = some limit) :
    (handler.errandJob errand (some budget)).tried stage =
      handler.exchange errand true (some (limit - stage.instant)) stage.instant stage.state := by
  have remaining : ((handler.errandJob errand (some budget)).told stage).remaining =
      some (limit - stage.instant) := by
    simp only [Retry.Job.told, Retry.Job.context, deadline, Option.map_some]
  rw [← remaining]
  rfl

theorem timed_of_sent (deadline : stage.deadline = some limit)
    (begun : stage.instant ≤ Clock.nextTick limit)
    (sent : ⟨sentAt, .sent link request call⟩ ∈
      ((handler.errandJob errand (some budget)).tried stage).notes) :
    handler.Timed errand budget limit stage sentAt link request call := by
  let job := handler.errandJob errand (some budget)
  let opening := (handler.openLink stage.instant stage.state).took
  have tried : job.tried stage = _ := tried_errandJob deadline
  rw [show (handler.errandJob errand (some budget)).tried stage = _ from tried] at sent
  have dispatched := dispatched_of_sent sent
  have opened : sentAt = stage.instant + opening := dispatched.sent
  have cutOff : job.triedAt stage ≤
      handler.outside.clock.wake sentAt (limit - stage.instant) := by
    rw [Retry.Job.triedAt, tried, dispatched.ended]
    exact handler.took_deliver_le link request sentAt _ dispatched.told
  have soon : job.triedAt stage ≤
      handler.outside.clock.wake (stage.instant + opening) (limit - stage.instant) := by
    rw [← opened]
    exact cutOff
  refine ⟨begun, dispatched, cutOff, ?_, ?_, ?_⟩
  · rw [opened, dispatched.told]
    exact handler.outside.clock.keepsTo_iff begun soon
  · intro prompt
    rw [took_openLink]
    split
    · rfl
    · rename_i asked
      exact prompt.resolve_left fun held => asked (.inr held)
  · have ended := handler.outside.clock.wake_remaining_le opening begun
    refine ⟨by omega, ?_, Nat.le_trans soon ended⟩
    omega

end Rounds

/-- All that is to be said of the times in a retried exchange with a budget. -/
structure TimedAccount (handler : Handler τ) (errand : Errand τ α) (budget start : Nat)
    (state : State τ) (last : Nat) : Prop where
  account : (handler.errandJob errand (some budget)).Account start state last
  -- Every request of the run is sent by an attempt, which times it.
  timed : ∀ sentAt link request call, ⟨sentAt, .sent link request call⟩ ∈
      (handler.exchangeRetrying errand (some budget) start state).notes →
    ∃ index ≤ last,
      let stage := (handler.errandJob errand (some budget)).stageAt start state index
      handler.Timed errand budget (start + budget) stage sentAt link request call
  -- If links take no time to come, the budget bounds every request.
  prompt : (∀ request now world, (handler.outside.createLink request now world).took = 0) →
    ∀ sentAt link request call, ⟨sentAt, .sent link request call⟩ ∈
      (handler.exchangeRetrying errand (some budget) start state).notes →
    ∃ index ≤ last,
      let stage := (handler.errandJob errand (some budget)).stageAt start state index
      KeepsTo (start + budget) sentAt call.timeout
        ((handler.errandJob errand (some budget)).triedAt stage)

/-- The budget of a retried exchange bounds each of its requests up to the time that the attempt
took before to open a link. -/
theorem exchangeRetrying_timed (handler : Handler τ) (errand : Errand τ α) (budget : Nat)
    (positive : 0 < budget) (start : Nat) (state : State τ) :
    (handler.errandJob errand (some budget)).Unstarted start state ∨
      ∃ last, handler.TimedAccount errand budget start state last := by
  let job := handler.errandJob errand (some budget)
  have only : job.AttemptsOnly Note.sentOver? :=
    attemptsOnly_job Note.ofAttempts_sentOver? _ _
  have deadline : job.terms.deadline? start = some (start + budget) :=
    handler.deadline?_errandJob errand positive start
  refine (job.run_account start state).imp_right ?_
  rintro ⟨last, account⟩
  have timed (sentAt : Nat) (link : Link) (request : Request) (call : Call)
      (sent : ⟨sentAt, .sent link request call⟩ ∈ (job.run start state).notes) :
      ∃ index ≤ last, handler.Timed errand budget (start + budget)
        (job.stageAt start state index) sentAt link request call := by
    obtain ⟨index, reached, among⟩ := only.mem_run account sent rfl
    have limit : (job.stageAt start state index).deadline = some (start + budget) := by
      rw [Retry.Job.deadline_stageAt, deadline]
    have begun : (job.stageAt start state index).instant ≤ Clock.nextTick (start + budget) := by
      cases index with
      | zero =>
        have first : (job.stageAt start state 0).instant = start := rfl
        have ahead := Clock.le_nextTick (start + budget)
        omega
      | succ index =>
        exact Retry.Job.instant_stageAt_le deadline (account.reached reached)
    exact ⟨index, reached, timed_of_sent limit begun among⟩
  refine ⟨last, account, timed, ?_⟩
  intro prompt sentAt link request call sent
  obtain ⟨index, reached, timing⟩ := timed sentAt link request call sent
  exact ⟨index, reached, timing.kept.mpr (.inl (timing.prompt (.inr (prompt _ _ _))))⟩

def triesOnce : Handler Rehearsal :=
  { onStage with configuration := { onStage.configuration with retries := 0 } }

/-- A link comes after sixty milliseconds, and an answer after half a second. -/
def slowToOpen : State Rehearsal :=
  initial none { openDelay := 60000000, answerDelay := 500000000 }

theorem timed_slowToOpen :
    0 < 100000000 ∧
      (triesOnce.exchangeRetrying peek (some 100000000) 0 slowToOpen).took = 160000000 ∧
      ∃ last, triesOnce.TimedAccount peek 100000000 0 slowToOpen last :=
  ⟨by decide, rfl,
    (exchangeRetrying_timed triesOnce peek 100000000 (by decide) 0 slowToOpen).resolve_left
      (Retry.Job.not_unstarted rfl)⟩

/-- The request gets the whole tenth of a second, although only forty milliseconds are left. -/
theorem not_keepsTo_slowToOpen :
    let course := triesOnce.exchangeRetrying peek (some 100000000) 0 slowToOpen
    let call := callOf peek (Text.bytes triesOnce.managementTarget) (some 100000000)
    ⟨60000000, .sent ⟨0, none⟩ (triesOnce.outgoing peek true ⟨0, none⟩) call⟩ ∈ course.notes ∧
      ¬ KeepsTo (0 + 100000000) 60000000 call.timeout (0 + course.took) := by
  intro course call
  have sent : course.notes[5]? =
      some ⟨60000000, .sent ⟨0, none⟩ (triesOnce.outgoing peek true ⟨0, none⟩) call⟩ := rfl
  refine ⟨List.mem_of_getElem? sent, ?_⟩
  rintro ⟨_, ⟨allowed, told, fits⟩, _⟩
  cases told
  exact absurd fits (by decide)

end Handler
end BusLink
