import BusLink.Proofs.Handler.Sending

set_option autoImplicit false

namespace BusLink

/-- The encoding is UTF-8, under either of its names in any case of their letters. -/
def Configuration.IsUtf8 (configuration : Configuration) : Prop :=
  Text.lower configuration.encoding = "utf-8" ∨ Text.lower configuration.encoding = "utf8"

/-- What takes some time from an instant on is over when its timer goes off, if it has one. -/
def Clock.InTime (clock : Clock) (timeout : Option Nat) (sentAt took : Nat) : Prop :=
  ∀ limit, timeout = some limit → sentAt + took ≤ clock.wake sentAt limit

namespace Note

def answer? : Note → Option Response
  | .answered response => some response
  | _ => none

def announcement? : Note → Option Event
  | .event (.managementRequest container operation node) =>
    some (.managementRequest container operation node)
  | _ => none

end Note

def answers (notes : List Note) : List Response := notes.filterMap Note.answer?

def announcements (notes : List Note) : List Event := notes.filterMap Note.announcement?

theorem answers_append (first second : List Note) :
    answers (first ++ second) = answers first ++ answers second :=
  List.filterMap_append

theorem announcements_append (first second : List Note) :
    announcements (first ++ second) = announcements first ++ announcements second :=
  List.filterMap_append

namespace Handler

variable {τ α : Type} {handler : Handler τ} {state : State τ} {now : Nat}

/-- Checks whether a handler can be used and opens the link. -/
def prepare (handler : Handler τ) : Act τ (Except Fault Unit) := do
  match ← handler.ensureUsable with
  | .error fault => return .error fault
  | .ok () => handler.openLink

/-- What becomes of the request of an errand over a link if nobody cuts it off. -/
def uncut {α : Type} (handler : Handler τ) (errand : Errand τ α) (keepAlive : Bool)
    (timeout : Option Nat) (link : Link) (sentAt : Nat) (world : τ) :
    Course Empty τ (Except Fault Response) :=
  handler.outside.request link (handler.outgoing errand keepAlive link)
    (callOf errand (Text.bytes handler.managementTarget) timeout) sentAt world

def timedOut (operation : String) (fault : Fault) : Fault :=
  .operationTimeout ("Management operation '" ++ operation ++ "' timed out.") (some fault)

/-- What an exchange comes to when its request goes out over a link. -/
structure Served (handler : Handler τ) (errand : Errand τ α) (keepAlive : Bool)
    (timeout : Option Nat) (link : Link) (sentAt : Nat) (world : τ)
    (course : Course Note (State τ) (Except Fault α)) : Prop where
  sent : sendings (contents course.notes) = [link]
  -- An answer in time goes to the receiver, once, and the exchange comes to what is made of it.
  answered : let uncut := handler.uncut errand keepAlive timeout link sentAt world
    ∀ response, handler.outside.clock.InTime timeout sentAt uncut.took → uncut.value = .ok response →
      answers (contents course.notes) = [response] ∧
        (course.value, course.state.outside) = (errand.receive response).run uncut.state
  failed : let uncut := handler.uncut errand keepAlive timeout link sentAt world
    ∀ raised, handler.outside.clock.InTime timeout sentAt uncut.took → uncut.value = .error raised →
      answers (contents course.notes) = [] ∧
        course.value = .error (if raised.isRawTimeout then timedOut errand.operation raised
          else raised)
  late : let uncut := handler.uncut errand keepAlive timeout link sentAt world
    ¬ handler.outside.clock.InTime timeout sentAt uncut.took →
      answers (contents course.notes) = [] ∧
        course.value = .error (timedOut errand.operation .elapsed)

/-- What a plain exchange comes to after what it takes to prepare the handler for it. -/
structure Steady (handler : Handler τ) (errand : Errand τ α) (keepAlive : Bool)
    (timeout : Option Nat) (now : Nat) (prepared : Course Note (State τ) (Except Fault Unit))
    (course : Course Note (State τ) (Except Fault α)) : Prop where
  -- Once the handler is prepared, nothing changes any more but the outside.
  frame : course.state = { prepared.state with outside := course.state.outside }
  unclosed : closings (contents course.notes) = []
  -- Every request is announced, and nothing else is.
  announced : announcements (contents course.notes) =
    (sendings (contents course.notes)).map fun _ =>
      .managementRequest handler.container errand.operation handler.managementTarget
  unprepared : ∀ fault, prepared.value = .error fault →
    course.value = .error fault ∧ sendings (contents course.notes) = [] ∧
      answers (contents course.notes) = []
  unencoded : prepared.value = .ok () → ¬ handler.configuration.IsUtf8 →
    course.value = .error (.configuration
        ("unsupported encoding '" ++ Text.lower handler.configuration.encoding ++ "'")) ∧
      sendings (contents course.notes) = [] ∧ answers (contents course.notes) = []
  served : prepared.value = .ok () → handler.configuration.IsUtf8 →
    ∃ link, prepared.state.link = some link ∧
      handler.Served errand keepAlive timeout link (now + prepared.took) prepared.state.outside
        course

section Preparing

variable {errand : Errand τ α} {keepAlive : Bool} {timeout : Option Nat}

theorem prepare_of_blocked {fault : Fault}
    (blocked : (handler.ensureUsable now state).value = .error fault) :
    handler.prepare now state = ⟨.error fault, 0, [], state⟩ := by
  simp [prepare, ensureUsable_of_value blocked, Course.after]

theorem prepare_of_usable (usable : (handler.ensureUsable now state).value = .ok ()) :
    handler.prepare now state = handler.openLink now state := by
  simp [prepare, ensureUsable_of_value usable, Course.after]

theorem filterMap_prepare {β : Type} {part : Note → Option β}
    (greetings : ∀ note, note.isGreeting = true → part note = none) (handler : Handler τ)
    (now : Nat) (state : State τ) :
    (contents (handler.prepare now state).notes).filterMap part = [] := by
  cases usable : (handler.ensureUsable now state).value with
  | error fault =>
    rw [prepare_of_blocked usable]
    rfl
  | ok _ =>
    rw [prepare_of_usable usable]
    exact filterMap_openLink greetings handler now state

theorem answer?_of_isGreeting (note : Note) (greeting : note.isGreeting = true) :
    note.answer? = none := by
  cases note <;> first | rfl | cases greeting

theorem announcement?_of_isGreeting (note : Note) (greeting : note.isGreeting = true) :
    note.announcement? = none := by
  cases note with
  | event event => cases event <;> first | rfl | cases greeting
  | _ => rfl

theorem sendings_prepare (handler : Handler τ) (now : Nat) (state : State τ) :
    sendings (contents (handler.prepare now state).notes) = [] :=
  filterMap_prepare sentOver?_of_isGreeting handler now state

theorem answers_prepare (handler : Handler τ) (now : Nat) (state : State τ) :
    answers (contents (handler.prepare now state).notes) = [] :=
  filterMap_prepare answer?_of_isGreeting handler now state

theorem announcements_prepare (handler : Handler τ) (now : Nat) (state : State τ) :
    announcements (contents (handler.prepare now state).notes) = [] :=
  filterMap_prepare announcement?_of_isGreeting handler now state

theorem exchange_of_unprepared {fault : Fault}
    (failed : (handler.prepare now state).value = .error fault) :
    handler.exchange errand keepAlive timeout now state =
      { handler.prepare now state with value := .error fault } := by
  cases usable : (handler.ensureUsable now state).value with
  | error obstacle =>
    rw [prepare_of_blocked usable] at failed ⊢
    cases failed
    exact exchange_of_blocked usable errand keepAlive timeout
  | ok _ =>
    rw [prepare_of_usable usable] at failed ⊢
    exact exchange_of_refused usable failed

/-- In a handler that is prepared the errand is sent over the link that is open. -/
theorem exchange_of_prepared (prepared : (handler.prepare now state).value = .ok ()) :
    ∃ link, (handler.prepare now state).state.link = some link ∧
      handler.exchange errand keepAlive timeout now state =
        (handler.send errand keepAlive timeout link (now + (handler.prepare now state).took)
          (handler.prepare now state).state).after (handler.prepare now state) := by
  cases usable : (handler.ensureUsable now state).value with
  | error obstacle =>
    rw [prepare_of_blocked usable] at prepared
    cases prepared
  | ok _ =>
    rw [prepare_of_usable usable] at prepared ⊢
    obtain ⟨_, _, link, held⟩ := open_of_ok prepared
    exact ⟨link, held, exchange_of_opened usable prepared held⟩

end Preparing

section Requests

variable {link : Link} {request : Request} {call : Call}

theorem deliver_of_inTime
    (inTime : handler.outside.clock.InTime call.timeout now
      (handler.outside.request link request call now state.outside).took) :
    let uncut := handler.outside.request link request call now state.outside
    handler.deliver link request call now state =
      ⟨uncut.value, uncut.took, [], { state with outside := uncut.state }⟩ := by
  intro uncut
  cases limited : call.timeout with
  | none => exact deliver_of_unlimited limited
  | some limit =>
    have fits := inTime limit limited
    rw [deliver_of_limited limited]
    simp only [Activity.within, fits, if_true, Option.getD_some]
    rfl

theorem deliver_of_late
    (late : ¬ handler.outside.clock.InTime call.timeout now
      (handler.outside.request link request call now state.outside).took) :
    ∃ took world, handler.deliver link request call now state =
      ⟨.error .elapsed, took, [], { state with outside := world }⟩ := by
  obtain ⟨limit, limited, missed⟩ : ∃ limit, call.timeout = some limit ∧
      ¬ now + (handler.outside.request link request call now state.outside).took ≤
        handler.outside.clock.wake now limit := by
    simpa [Clock.InTime] using late
  rw [deliver_of_limited limited]
  simp only [Activity.within, missed, if_false, Option.getD_none]
  exact ⟨_, _, rfl⟩

variable {errand : Errand τ α}

theorem conclude_of_answered {response : Response}
    (inTime : handler.outside.clock.InTime call.timeout now
      (handler.outside.request link request call now state.outside).took)
    (answered : (handler.outside.request link request call now state.outside).value =
      .ok response) :
    let uncut := handler.outside.request link request call now state.outside
    let received := (errand.receive response).run uncut.state
    handler.conclude errand link request call now state =
      ⟨received.1, uncut.took, [⟨now + uncut.took, .answered response⟩],
        { state with outside := received.2 }⟩ := by
  have delivered := deliver_of_inTime inTime
  have value := (congrArg Course.value delivered).trans answered
  rw [conclude_of_ok value, delivered]
  rfl

theorem conclude_of_failed {raised : Fault}
    (inTime : handler.outside.clock.InTime call.timeout now
      (handler.outside.request link request call now state.outside).took)
    (failed : (handler.outside.request link request call now state.outside).value =
      .error raised) :
    let uncut := handler.outside.request link request call now state.outside
    handler.conclude errand link request call now state =
      ⟨.error (handler.named errand.operation raised), uncut.took, [],
        { state with outside := uncut.state }⟩ := by
  have delivered := deliver_of_inTime inTime
  have value := (congrArg Course.value delivered).trans failed
  rw [conclude_of_error value, delivered]

theorem conclude_of_late
    (late : ¬ handler.outside.clock.InTime call.timeout now
      (handler.outside.request link request call now state.outside).took) :
    ∃ took world, handler.conclude errand link request call now state =
      ⟨.error (handler.named errand.operation .elapsed), took, [],
        { state with outside := world }⟩ := by
  obtain ⟨took, world, delivered⟩ := deliver_of_late late
  rw [conclude_of_error (congrArg Course.value delivered), delivered]
  exact ⟨took, world, rfl⟩

theorem named_of_standard (standard : handler.outside.isTimeout = Fault.isRawTimeout)
    (operation : String) (raised : Fault) :
    handler.named operation raised =
      if raised.isRawTimeout then timedOut operation raised else raised := by
  rw [named, standard]
  rfl

end Requests

section Errands

variable {errand : Errand τ α} {keepAlive : Bool} {timeout : Option Nat} {link : Link}

theorem encode_of_isUtf8 {configuration : Configuration} (encoding : configuration.IsUtf8)
    (address : String) : configuration.encode address = .ok (Text.bytes address) :=
  if_pos encoding

theorem encode_of_not_isUtf8 {configuration : Configuration} (other : ¬ configuration.IsUtf8)
    (address : String) :
    configuration.encode address =
      .error (.configuration
        ("unsupported encoding '" ++ Text.lower configuration.encoding ++ "'")) :=
  if_neg other

/-- A request is announced before it is sent, and nothing else is. -/
theorem announced_send (handler : Handler τ) (errand : Errand τ α) (keepAlive : Bool)
    (timeout : Option Nat) (link : Link) (now : Nat) (state : State τ) :
    announcements (contents (handler.send errand keepAlive timeout link now state).notes) =
      (sendings (contents (handler.send errand keepAlive timeout link now state).notes)).map
        fun _ => .managementRequest handler.container errand.operation
          handler.managementTarget := by
  cases encoded : handler.configuration.encode handler.managementTarget with
  | error fault =>
    rw [handler.send_of_not_encoded errand keepAlive timeout link now state encoded]
    rfl
  | ok node =>
    obtain ⟨answers, left⟩ := contents_send encoded
    have unannounced : announcements (answers.map Note.answered) = [] :=
      filterMap_answered (fun _ => rfl) answers
    have unsent : sendings (answers.map Note.answered) = [] :=
      filterMap_answered (fun _ => rfl) answers
    rw [left]
    simp only [announcements, sendings, List.filterMap_cons, Note.announcement?, Note.sentOver?]
      at unannounced unsent ⊢
    rw [unannounced, unsent]
    rfl

theorem frame_send (handler : Handler τ) (errand : Errand τ α) (keepAlive : Bool)
    (timeout : Option Nat) (link : Link) (now : Nat) (state : State τ) :
    ∃ world, (handler.send errand keepAlive timeout link now state).state =
      { state with outside := world } := by
  cases encoded : handler.configuration.encode handler.managementTarget with
  | error fault =>
    rw [handler.send_of_not_encoded errand keepAlive timeout link now state encoded]
    exact ⟨state.outside, rfl⟩
  | ok node =>
    rw [send_apply encoded]
    exact (handler.conclude_cases errand link _ _ now state).2

theorem served_send (standard : handler.outside.isTimeout = Fault.isRawTimeout)
    (encoding : handler.configuration.IsUtf8) (held : state.link = some link) :
    handler.Served errand keepAlive timeout link now state.outside
      (handler.send errand keepAlive timeout link now state) := by
  have encoded := encode_of_isUtf8 encoding handler.managementTarget
  refine ⟨(sent_send encoded held).sent, ?_, ?_, ?_⟩
  · intro uncut response inTime answered
    rw [send_apply encoded, conclude_of_answered inTime answered]
    exact ⟨rfl, rfl⟩
  · intro uncut raised inTime failed
    rw [send_apply encoded, conclude_of_failed inTime failed]
    exact ⟨rfl, congrArg Except.error (named_of_standard standard errand.operation raised)⟩
  · intro uncut late
    let request := handler.outgoing errand keepAlive link
    let call := callOf errand (Text.bytes handler.managementTarget) timeout
    obtain ⟨took, world, concluded⟩ : ∃ took world,
        handler.conclude errand link request call now state =
          ⟨.error (handler.named errand.operation .elapsed), took, [],
            { state with outside := world }⟩ := conclude_of_late late
    rw [send_apply encoded, concluded]
    exact ⟨rfl, congrArg Except.error (named_of_standard standard errand.operation .elapsed)⟩

/-- What was done to prepare leaves no trace in what a request comes to. -/
theorem Served.after {course : Course Note (State τ) (Except Fault α)} {sentAt : Nat} {world : τ}
    (served : handler.Served errand keepAlive timeout link sentAt world course) (now : Nat)
    (state : State τ) :
    handler.Served errand keepAlive timeout link sentAt world
      (course.after (handler.prepare now state)) := by
  have sent : sendings (contents (course.after (handler.prepare now state)).notes) =
      sendings (contents course.notes) := by
    rw [Activity.notes_after, contents_append, sendings_append, sendings_prepare, List.nil_append]
  have answered : answers (contents (course.after (handler.prepare now state)).notes) =
      answers (contents course.notes) := by
    rw [Activity.notes_after, contents_append, answers_append, answers_prepare, List.nil_append]
  exact ⟨sent.trans served.sent, answered ▸ served.answered, answered ▸ served.failed,
    answered ▸ served.late⟩

theorem frame_exchange (handler : Handler τ) (errand : Errand τ α) (keepAlive : Bool)
    (timeout : Option Nat) (now : Nat) (state : State τ) :
    ∃ world, (handler.exchange errand keepAlive timeout now state).state =
      { (handler.prepare now state).state with outside := world } := by
  cases prepared : (handler.prepare now state).value with
  | error fault =>
    rw [exchange_of_unprepared prepared]
    exact ⟨(handler.prepare now state).state.outside, rfl⟩
  | ok _ =>
    obtain ⟨link, _, course⟩ := exchange_of_prepared prepared
    rw [course, Activity.state_after]
    exact handler.frame_send errand keepAlive timeout link _ _

theorem announced_exchange (handler : Handler τ) (errand : Errand τ α) (keepAlive : Bool)
    (timeout : Option Nat) (now : Nat) (state : State τ) :
    announcements (contents (handler.exchange errand keepAlive timeout now state).notes) =
      (sendings (contents (handler.exchange errand keepAlive timeout now state).notes)).map
        fun _ => .managementRequest handler.container errand.operation
          handler.managementTarget := by
  cases prepared : (handler.prepare now state).value with
  | error fault =>
    rw [exchange_of_unprepared prepared, announcements_prepare, sendings_prepare]
    rfl
  | ok _ =>
    obtain ⟨link, _, course⟩ := exchange_of_prepared prepared
    rw [course, Activity.notes_after, contents_append, sendings_append, announcements_append,
      sendings_prepare, announcements_prepare, List.nil_append, List.nil_append]
    exact handler.announced_send errand keepAlive timeout link _ _

theorem steady_exchange (standard : handler.outside.isTimeout = Fault.isRawTimeout)
    (errand : Errand τ α) (keepAlive : Bool) (timeout : Option Nat) (now : Nat)
    (state : State τ) :
    handler.Steady errand keepAlive timeout now (handler.prepare now state)
      (handler.exchange errand keepAlive timeout now state) := by
  have unsent := handler.sendings_prepare now state
  have unanswered := handler.answers_prepare now state
  obtain ⟨world, frame⟩ := handler.frame_exchange errand keepAlive timeout now state
  refine ⟨?_, handler.closings_exchange errand keepAlive timeout now state,
    handler.announced_exchange errand keepAlive timeout now state, ?_, ?_, ?_⟩
  · rw [frame]
  · intro fault failed
    rw [exchange_of_unprepared failed]
    exact ⟨rfl, unsent, unanswered⟩
  · intro prepared other
    obtain ⟨link, _, course⟩ := exchange_of_prepared prepared
    have rejected := encode_of_not_isUtf8 other handler.managementTarget
    rw [course, handler.send_of_not_encoded errand keepAlive timeout link _ _ rejected]
    rw [Activity.notes_after, List.append_nil]
    exact ⟨rfl, unsent, unanswered⟩
  · intro prepared encoding
    obtain ⟨link, held, course⟩ := exchange_of_prepared prepared
    rw [course]
    exact ⟨link, held, (served_send standard encoding held).after now state⟩

theorem send_of_unanswered (receive : Response → StateM τ (Except Fault α))
    (unanswered :
      answers (contents (handler.send errand keepAlive timeout link now state).notes) = []) :
    handler.send { errand with receive } keepAlive timeout link now state =
      handler.send errand keepAlive timeout link now state := by
  cases encoded : handler.configuration.encode handler.managementTarget with
  | error fault =>
    rw [handler.send_of_not_encoded _ keepAlive timeout link now state encoded,
      handler.send_of_not_encoded _ keepAlive timeout link now state encoded]
  | ok node =>
    have request : handler.outgoing { errand with receive } keepAlive link =
        handler.outgoing errand keepAlive link := rfl
    have call : callOf { errand with receive } node timeout = callOf errand node timeout := rfl
    rw [send_apply encoded] at unanswered ⊢
    rw [send_apply encoded, request, call]
    cases delivered : (handler.deliver link (handler.outgoing errand keepAlive link)
        (callOf errand node timeout) now state).value with
    | error raised => rw [conclude_of_error delivered, conclude_of_error delivered]
    | ok response =>
      -- An answer that came would be among the notes.
      rw [conclude_of_ok delivered] at unanswered
      have silent := List.filterMap_eq_nil_iff.mp unanswered (.answered response) (by simp)
      cases silent

theorem exchange_of_unanswered (receive : Response → StateM τ (Except Fault α))
    (unanswered : answers (contents (handler.exchange errand keepAlive timeout now state).notes) =
      []) :
    handler.exchange { errand with receive } keepAlive timeout now state =
      handler.exchange errand keepAlive timeout now state := by
  cases prepared : (handler.prepare now state).value with
  | error fault => rw [exchange_of_unprepared prepared, exchange_of_unprepared prepared]
  | ok _ =>
    obtain ⟨link, held, course⟩ := exchange_of_prepared prepared
    obtain ⟨_, again, course'⟩ := exchange_of_prepared prepared
    cases held.symm.trans again
    rw [course, Activity.notes_after, contents_append, answers_append,
      List.append_eq_nil_iff] at unanswered
    rw [course, course', send_of_unanswered receive unanswered.2]

end Errands

/-- Whatever becomes of a plain exchange, the handler stays as it was prepared for it. The answer
goes to its receiver once if it comes in time, and without one the receiver is not called at all. -/
theorem plain_exchange_steady (standard : handler.outside.isTimeout = Fault.isRawTimeout)
    (errand : Errand τ α) (keepAlive : Bool) (timeout : Option Nat) (now : Nat)
    (state : State τ) :
    let course := handler.exchange errand keepAlive timeout now state
    handler.Steady errand keepAlive timeout now (handler.prepare now state) course ∧
      (answers (contents course.notes) = [] → ∀ receive,
        handler.exchange { errand with receive } keepAlive timeout now state = course) :=
  ⟨steady_exchange standard errand keepAlive timeout now state,
    fun unanswered receive => exchange_of_unanswered receive unanswered⟩

/-- An errand whose answer is never good enough. -/
def declines : Errand Rehearsal Nat where
  operation := "peek"
  message := { body := .null }
  receive := fun _ => pure (.error (.invalidState "declined"))

theorem plain_exchange_steady_declines :
    let start : State Rehearsal := initial none { answerDelay := 500000000 }
    let hurried := onStage.exchange declines true (some 100000000) 0 start
    let patient := onStage.exchange declines true none 0 start
    onStage.outside.isTimeout = Fault.isRawTimeout ∧
      hurried.value = .error (timedOut "peek" .elapsed) ∧ hurried.state.link = some ⟨0, none⟩ ∧
      onStage.Steady declines true (some 100000000) 0 (onStage.prepare 0 start) hurried ∧
      patient.value = .error (.invalidState "declined") ∧ patient.state.link = some ⟨0, none⟩ ∧
      onStage.Steady declines true none 0 (onStage.prepare 0 start) patient :=
  ⟨rfl, rfl, rfl, (plain_exchange_steady rfl declines true (some 100000000) 0 _).1, rfl, rfl,
    (plain_exchange_steady rfl declines true none 0 _).1⟩

end Handler
end BusLink
