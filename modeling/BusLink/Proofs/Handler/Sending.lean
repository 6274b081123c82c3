import BusLink.Proofs.Handler.Ownership

set_option autoImplicit false

namespace BusLink

namespace Note

def requested? : Note → Option LinkRequest
  | .linkRequested request => some request
  | _ => none

def sentOver? : Note → Option Link
  | .sent link _ _ => some link
  | _ => none

def isGreeting : Note → Bool
  | .linkRequested _ | .linkRefused _ | .linkGranted _ | .event (.linkOpened ..) => true
  | _ => false

def isTraffic : Note → Bool
  | .sent .. | .answered _ | .event (.managementRequest ..) => true
  | _ => false

end Note

/-- What links are asked for with, in order. -/
def linkRequests (notes : List Note) : List LinkRequest := notes.filterMap Note.requested?

/-- The links that requests go out over, in order. -/
def sendings (notes : List Note) : List Link := notes.filterMap Note.sentOver?

theorem linkRequests_append (first second : List Note) :
    linkRequests (first ++ second) = linkRequests first ++ linkRequests second :=
  List.filterMap_append

theorem sendings_append (first second : List Note) :
    sendings (first ++ second) = sendings first ++ sendings second :=
  List.filterMap_append

theorem closings_append (first second : List Note) :
    closings (first ++ second) = closings first ++ closings second :=
  List.filterMap_append

namespace Handler

variable {τ α : Type} {handler : Handler τ} {state : State τ} {now : Nat}

theorem shutdown_of_usable (usable : (handler.ensureUsable now state).value = .ok ()) :
    state.shutdown = false := by
  rw [← Bool.not_eq_true]
  intro shutdown
  simp only [ensureUsable_apply, obstacle?, shutdown, if_true, reduceCtorEq] at usable

theorem greetings_openLink (handler : Handler τ) (now : Nat) (state : State τ) :
    ∀ note ∈ contents (handler.openLink now state).notes, note.isGreeting = true := by
  cases handler.opening now state with
  | shut shutdown course | already usable held course => simp [course]
  | refused fault usable vacant course | granted name usable vacant course =>
    simp [course, Note.isGreeting]

theorem filterMap_openLink {β : Type} {part : Note → Option β}
    (greetings : ∀ note, note.isGreeting = true → part note = none) (handler : Handler τ)
    (now : Nat) (state : State τ) :
    (contents (handler.openLink now state).notes).filterMap part = [] := by
  rw [List.filterMap_eq_nil_iff]
  intro note member
  exact greetings note (handler.greetings_openLink now state note member)

theorem sentOver?_of_isGreeting (note : Note) (greeting : note.isGreeting = true) :
    note.sentOver? = none := by
  cases note <;> first | rfl | cases greeting

/-- Opening a link asks for one exactly if the handler is not shut down and holds none, whatever
there is to be said of its session. -/
theorem linkRequests_openLink (handler : Handler τ) (now : Nat) (state : State τ) :
    linkRequests (contents (handler.openLink now state).notes) =
      if state.shutdown = true ∨ state.running = true ∧ state.link.isSome = true then []
      else [handler.linkRequest state.session] := by
  cases handler.opening now state with
  | shut shutdown course =>
    rw [course, if_pos (.inl shutdown)]
    rfl
  | already usable held course =>
    rw [course, if_pos (.inr held)]
    rfl
  | refused fault usable vacant course | granted name usable vacant course =>
    rw [course, if_neg (not_or.mpr ⟨by simp [usable], vacant⟩)]
    rfl

/-- What opening a link comes to in a handler that is not shut down. -/
inductive Opened (handler : Handler τ) (now : Nat) (state : State τ) : Prop where
  | kept (link : Link) (held : state.link = some link)
      (course : handler.openLink now state = ⟨.ok (), 0, [], state⟩)
  | granted (name : Option String) (vacant : state.link = none)
      (value : (handler.openLink now state).value = .ok ())
      (held : (handler.openLink now state).state.link = some ⟨state.opened, name⟩)
      (notes : contents (handler.openLink now state).notes =
        [.linkRequested (handler.linkRequest state.session), .linkGranted ⟨state.opened, name⟩,
          .event (.linkOpened handler.container handler.entityPath)])
  | refused (fault : Fault) (vacant : state.link = none)
      (value : (handler.openLink now state).value = .error fault)
      (stillVacant : (handler.openLink now state).state.link = none)
      (notes : contents (handler.openLink now state).notes =
        [.linkRequested (handler.linkRequest state.session), .linkRefused fault])

theorem openLink_cases (consistent : state.Consistent) (usable : state.shutdown = false) :
    handler.Opened now state := by
  cases handler.opening now state with
  | shut shutdown course => cases usable.symm.trans shutdown
  | already _ held course =>
    obtain ⟨link, held⟩ := Option.isSome_iff_exists.mp held.2
    exact .kept link held course
  | refused fault _ vacant course =>
    have none := consistent.link_eq_none vacant
    exact .refused fault none (by rw [course]) (by rw [course]; exact none) (by rw [course]; rfl)
  | granted name _ vacant course =>
    exact .granted name (consistent.link_eq_none vacant) (by rw [course]) (by rw [course]; rfl)
      (by rw [course]; rfl)

namespace Opened

variable (opening : handler.Opened now state)

include opening

theorem course {link : Link} (held : state.link = some link) :
    handler.openLink now state = ⟨.ok (), 0, [], state⟩ := by
  cases opening with
  | kept before already course => exact course
  | granted name vacant value granted notes => cases vacant.symm.trans held
  | refused fault vacant value stillVacant notes => cases vacant.symm.trans held

theorem vacant {fault : Fault} (failed : (handler.openLink now state).value = .error fault) :
    state.link = none ∧ (handler.openLink now state).state.link = none := by
  cases opening with
  | kept link held course => cases (congrArg Course.value course).symm.trans failed
  | granted name vacant value held notes => cases value.symm.trans failed
  | refused raised vacant value stillVacant notes => exact ⟨vacant, stillVacant⟩

theorem asked : linkRequests (contents (handler.openLink now state).notes) =
    if state.link.isSome then [] else [handler.linkRequest state.session] := by
  cases opening with
  | kept link held course => rw [course, held]; rfl
  | granted name vacant value held notes => rw [notes, vacant]; rfl
  | refused raised vacant value stillVacant notes => rw [notes, vacant]; rfl

theorem silent : sendings (contents (handler.openLink now state).notes) = [] ∧
    closings (contents (handler.openLink now state).notes) = [] := by
  cases opening with
  | kept link held course => rw [course]; exact ⟨rfl, rfl⟩
  | granted name vacant value held notes => rw [notes]; exact ⟨rfl, rfl⟩
  | refused raised vacant value stillVacant notes => rw [notes]; exact ⟨rfl, rfl⟩

end Opened

section Requests

variable {link : Link} {request : Request} {call : Call} {errand : Errand τ α}

theorem deliver_of_unlimited (unlimited : call.timeout = none) :
    let asked := handler.outside.request link request call now state.outside
    handler.deliver link request call now state =
      ⟨asked.value, asked.took, [], { state with outside := asked.state }⟩ := by
  simp only [deliver, unlimited, ask_apply]

/-- A request that is cut off ends with the raw failure of a timer. -/
theorem deliver_of_limited {limit : Nat} (limited : call.timeout = some limit) :
    let sending := handler.outside.request link request call
    let cut := sending.within handler.outside.clock limit now state.outside
    handler.deliver link request call now state =
      ⟨cut.value.getD (.error .elapsed), cut.took, [], { state with outside := cut.state }⟩ := by
  intro sending cut
  have course : (handler.outside.request link request call).within handler.outside.clock limit now
      state.outside = cut := rfl
  cases outcome : cut.value <;> simp [deliver, limited, course, outcome, Course.after]

/-- Whatever becomes of a request, it changes nothing but the outside. -/
theorem deliver_cases (handler : Handler τ) (link : Link) (request : Request) (call : Call)
    (now : Nat) (state : State τ) :
    ∃ value took world, handler.deliver link request call now state =
      ⟨value, took, [], { state with outside := world }⟩ := by
  cases limit : call.timeout with
  | none => exact ⟨_, _, _, deliver_of_unlimited limit⟩
  | some _ => exact ⟨_, _, _, deliver_of_limited limit⟩

theorem receive_apply (errand : Errand τ α) (response : Response) (now : Nat) (state : State τ) :
    receive errand response now state =
      let received := (errand.receive response).run state.outside
      ⟨received.1, 0, [], { state with outside := received.2 }⟩ := rfl

theorem conclude_of_error {raised : Fault}
    (failed : (handler.deliver link request call now state).value = .error raised) :
    let delivered := handler.deliver link request call now state
    handler.conclude errand link request call now state =
      ⟨.error (handler.named errand.operation raised), delivered.took, delivered.notes,
        delivered.state⟩ := by
  simp [conclude, failed, Course.after]

theorem conclude_of_ok {response : Response}
    (answered : (handler.deliver link request call now state).value = .ok response) :
    let delivered := handler.deliver link request call now state
    let received := (errand.receive response).run delivered.state.outside
    handler.conclude errand link request call now state =
      ⟨received.1, delivered.took,
        delivered.notes ++ [⟨now + delivered.took, .answered response⟩],
        { delivered.state with outside := received.2 }⟩ := by
  simp [conclude, answered, receive_apply, Course.after]

theorem conclude_cases (handler : Handler τ) (errand : Errand τ α) (link : Link)
    (request : Request) (call : Call) (now : Nat) (state : State τ) :
    (∃ answers : List Response,
      contents (handler.conclude errand link request call now state).notes =
        answers.map Note.answered) ∧
      ∃ world, (handler.conclude errand link request call now state).state =
        { state with outside := world } := by
  obtain ⟨value, took, world, delivered⟩ := handler.deliver_cases link request call now state
  cases value with
  | error raised =>
    have failed : (handler.deliver link request call now state).value = .error raised := by
      rw [delivered]
    rw [conclude_of_error failed, delivered]
    exact ⟨⟨[], rfl⟩, world, rfl⟩
  | ok response =>
    have answered : (handler.deliver link request call now state).value = .ok response := by
      rw [delivered]
    rw [conclude_of_ok answered, delivered]
    exact ⟨⟨[response], rfl⟩, _, rfl⟩

end Requests

section Errands

variable {errand : Errand τ α} {keepAlive : Bool} {timeout : Option Nat} {node : List UInt8}
variable {link : Link}

/-- How an errand is sent. -/
def callOf (errand : Errand τ α) (node : List UInt8) (timeout : Option Nat) : Call :=
  ⟨errand.operation, entityManagement, node, timeout⟩

/-- An errand is announced and sent at once, and whatever comes of it follows. -/
theorem send_apply (encoded : handler.configuration.encode handler.managementTarget = .ok node) :
    let request := handler.outgoing errand keepAlive link
    let call := callOf errand node timeout
    let concluded := handler.conclude errand link request call now state
    handler.send errand keepAlive timeout link now state =
      ⟨concluded.value, concluded.took,
        ⟨now, .event (.managementRequest handler.container errand.operation
          handler.managementTarget)⟩ :: ⟨now, .sent link request call⟩ :: concluded.notes,
        concluded.state⟩ := by
  intro request call concluded
  rw [handler.send_of_encoded errand keepAlive timeout link encoded]
  simp [concluded, request, call, callOf, Course.after]

theorem contents_send (encoded : handler.configuration.encode handler.managementTarget = .ok node) :
    ∃ answers : List Response,
      contents (handler.send errand keepAlive timeout link now state).notes =
        .event (.managementRequest handler.container errand.operation handler.managementTarget) ::
          .sent link (handler.outgoing errand keepAlive link) (callOf errand node timeout) ::
          answers.map Note.answered := by
  obtain ⟨⟨answers, answered⟩, _⟩ := handler.conclude_cases errand link
    (handler.outgoing errand keepAlive link) (callOf errand node timeout) now state
  rw [send_apply encoded, contents_cons, contents_cons, answered]
  exact ⟨answers, rfl⟩

theorem filterMap_answered {β : Type} {part : Note → Option β}
    (silent : ∀ response, part (.answered response) = none) (answers : List Response) :
    (answers.map Note.answered).filterMap part = [] := by
  rw [List.filterMap_map, List.filterMap_eq_nil_iff]
  exact fun response _ => silent response

theorem traffic_send (handler : Handler τ) (errand : Errand τ α) (keepAlive : Bool)
    (timeout : Option Nat) (link : Link) (now : Nat) (state : State τ) :
    ∀ note ∈ contents (handler.send errand keepAlive timeout link now state).notes,
      note.isTraffic = true := by
  cases encoded : handler.configuration.encode handler.managementTarget with
  | error fault =>
    rw [handler.send_of_not_encoded errand keepAlive timeout link now state encoded]
    simp
  | ok node =>
    obtain ⟨answers, left⟩ := contents_send encoded
    rw [left]
    intro note member
    simp only [List.mem_cons, List.mem_map] at member
    rcases member with rfl | rfl | ⟨response, _, rfl⟩ <;> rfl

theorem filterMap_send {β : Type} {part : Note → Option β}
    (traffic : ∀ note, note.isTraffic = true → part note = none) (errand : Errand τ α)
    (keepAlive : Bool) (timeout : Option Nat) (link : Link) (now : Nat) (state : State τ) :
    (contents (handler.send errand keepAlive timeout link now state).notes).filterMap part =
      [] := by
  rw [List.filterMap_eq_nil_iff]
  intro note member
  exact traffic note (handler.traffic_send errand keepAlive timeout link now state note member)

theorem requested?_of_isTraffic (note : Note) (traffic : note.isTraffic = true) :
    note.requested? = none := by
  cases note <;> first | rfl | cases traffic

theorem closing?_of_isTraffic (note : Note) (traffic : note.isTraffic = true) :
    note.closing? = none := by
  cases note <;> first | rfl | cases traffic

/-- What an exchange over a certain link asks for, sends and leaves open, besides what opening the
link does. -/
structure Sent (link : Link) (course : Course Note (State τ) (Except Fault α)) : Prop where
  asked : linkRequests (contents course.notes) = []
  sent : sendings (contents course.notes) = [link]
  closed : closings (contents course.notes) = []
  held : course.state.link = some link

theorem sent_send (encoded : handler.configuration.encode handler.managementTarget = .ok node)
    (held : state.link = some link) :
    Sent link (handler.send errand keepAlive timeout link now state) := by
  constructor
  · exact filterMap_send requested?_of_isTraffic errand keepAlive timeout link now state
  · obtain ⟨answers, left⟩ := contents_send encoded
    rw [left]
    exact congrArg (link :: ·) (filterMap_answered (fun _ => rfl) answers)
  · exact filterMap_send closing?_of_isTraffic errand keepAlive timeout link now state
  · obtain ⟨_, world, stays⟩ := handler.conclude_cases errand link
      (handler.outgoing errand keepAlive link) (callOf errand node timeout) now state
    rw [send_apply encoded]
    exact (congrArg State.link stays).trans held

/-- What an exchange of a handler that can be used asks for and sends. -/
structure Underway (handler : Handler τ) (now : Nat) (state : State τ)
    (course : Course Note (State τ) (Except Fault α)) : Prop where
  -- A link is asked for, once, exactly if none is held.
  asked : linkRequests (contents course.notes) =
    if state.link.isSome then [] else [handler.linkRequest state.session]
  -- Without a link the exchange fails, and nothing is sent.
  unopened : ∀ fault, (handler.openLink now state).value = .error fault →
    course.value = .error fault ∧ course.state.link = none ∧ sendings (contents course.notes) = []
  -- Over an open link the request is sent, once, and the link stays open.
  opened : (handler.openLink now state).value = .ok () →
    ∃ link, (handler.openLink now state).state.link = some link ∧
      sendings (contents course.notes) = [link] ∧ course.state.link = some link
  -- A link that is held is the one that is used.
  reused : ∀ link, state.link = some link →
    (handler.openLink now state).value = .ok () ∧ sendings (contents course.notes) = [link]

/-- What an exchange asks for and sends. -/
structure Attempted (handler : Handler τ) (now : Nat) (state : State τ)
    (course : Course Note (State τ) (Except Fault α)) : Prop where
  -- A handler that cannot be used does nothing.
  blocked : ∀ fault, (handler.ensureUsable now state).value = .error fault →
    course = ⟨.error fault, 0, [], state⟩
  underway : (handler.ensureUsable now state).value = .ok () →
    handler.Underway now state course
  unclosed : closings (contents course.notes) = []

theorem attempted_of_blocked {fault : Fault}
    (blocked : (handler.ensureUsable now state).value = .error fault) :
    handler.Attempted now state
      (⟨.error fault, 0, [], state⟩ : Course Note (State τ) (Except Fault α)) := by
  constructor
  · intro raised other
    rw [blocked] at other
    cases other
    rfl
  · intro usable
    rw [blocked] at usable
    cases usable
  · rfl

theorem attempted_of_underway {course : Course Note (State τ) (Except Fault α)}
    (usable : (handler.ensureUsable now state).value = .ok ())
    (underway : handler.Underway now state course)
    (unclosed : closings (contents course.notes) = []) :
    handler.Attempted now state course := by
  refine ⟨?_, fun _ => underway, unclosed⟩
  intro fault blocked
  rw [usable] at blocked
  cases blocked

theorem underway_of_refused {fault : Fault} (opening : handler.Opened now state)
    (refused : (handler.openLink now state).value = .error fault) :
    handler.Underway now state
      ({ handler.openLink now state with value := .error fault } :
        Course Note (State τ) (Except Fault α)) := by
  obtain ⟨vacant, stillVacant⟩ := opening.vacant refused
  constructor
  · exact opening.asked
  · intro other same
    rw [refused] at same
    cases same
    exact ⟨rfl, stillVacant, opening.silent.1⟩
  · intro opened
    rw [refused] at opened
    cases opened
  · intro link held
    rw [vacant] at held
    cases held

/-- Opening a link sends nothing, and what follows is sent over that link. -/
theorem underway_of_sent {link : Link} {course : Course Note (State τ) (Except Fault α)}
    (opening : handler.Opened now state) (opened : (handler.openLink now state).value = .ok ())
    (held : (handler.openLink now state).state.link = some link) (sent : Sent link course) :
    handler.Underway now state (course.after (handler.openLink now state)) := by
  have sendings : sendings (contents (course.after (handler.openLink now state)).notes) =
      [link] := by
    rw [Activity.notes_after, contents_append, sendings_append, opening.silent.1, sent.sent]
    rfl
  constructor
  · rw [Activity.notes_after, contents_append, linkRequests_append, opening.asked, sent.asked,
      List.append_nil]
  · intro fault refused
    rw [opened] at refused
    cases refused
  · intro _
    exact ⟨link, held, sendings, sent.held⟩
  · intro before already
    rw [opening.course already, already] at held
    cases held
    exact ⟨opened, sendings⟩

theorem attempted_exchange (consistent : state.Consistent)
    (encoded : handler.configuration.encode handler.managementTarget = .ok node) :
    handler.Attempted now state (handler.exchange errand keepAlive timeout now state) := by
  cases handler.exchange_cases errand keepAlive timeout now state with
  | unusable fault blocked course =>
    rw [course]
    exact attempted_of_blocked blocked
  | notOpened fault usable refused course =>
    have opening : handler.Opened now state :=
      openLink_cases consistent (shutdown_of_usable usable)
    rw [course]
    exact attempted_of_underway usable (underway_of_refused opening refused) opening.silent.2
  | overLink link usable opened held course =>
    have opening : handler.Opened now state :=
      openLink_cases consistent (shutdown_of_usable usable)
    have sent : Sent link (handler.send errand keepAlive timeout link
        (now + (handler.openLink now state).took) (handler.openLink now state).state) :=
      sent_send encoded held
    rw [course]
    refine attempted_of_underway usable (underway_of_sent opening opened held sent) ?_
    rw [Activity.notes_after, contents_append, closings_append, opening.silent.2, sent.closed]
    rfl

/-- Besides its request, an exchange leaves what opening its link leaves. -/
theorem filterMap_exchange {β : Type} {part : Note → Option β}
    (traffic : ∀ note, note.isTraffic = true → part note = none)
    (usable : (handler.ensureUsable now state).value = .ok ()) (errand : Errand τ α)
    (keepAlive : Bool) (timeout : Option Nat) :
    (contents (handler.exchange errand keepAlive timeout now state).notes).filterMap part =
      (contents (handler.openLink now state).notes).filterMap part := by
  cases handler.exchange_cases errand keepAlive timeout now state with
  | unusable fault blocked course => cases usable.symm.trans blocked
  | notOpened fault _ refused course => rw [course]
  | overLink link _ opened held course =>
    rw [course, Activity.notes_after, contents_append, List.filterMap_append,
      filterMap_send traffic, List.append_nil]

theorem linkRequests_exchange (consistent : state.Consistent)
    (usable : (handler.ensureUsable now state).value = .ok ()) (errand : Errand τ α)
    (keepAlive : Bool) (timeout : Option Nat) :
    linkRequests (contents (handler.exchange errand keepAlive timeout now state).notes) =
      if state.link.isSome then [] else [handler.linkRequest state.session] := by
  have unshut := shutdown_of_usable usable
  rw [linkRequests, filterMap_exchange requested?_of_isTraffic usable, ← linkRequests,
    linkRequests_openLink]
  simp only [unshut, consistent.running, Bool.false_eq_true, false_or, and_self]

theorem closings_exchange (handler : Handler τ) (errand : Errand τ α) (keepAlive : Bool)
    (timeout : Option Nat) (now : Nat) (state : State τ) :
    closings (contents (handler.exchange errand keepAlive timeout now state).notes) = [] := by
  cases handler.exchange_cases errand keepAlive timeout now state with
  | unusable fault blocked course =>
    rw [course]
    rfl
  | notOpened fault usable refused course | overLink link usable opened held course =>
    rw [closings, filterMap_exchange closing?_of_isTraffic usable, List.filterMap_eq_nil_iff]
    intro note member
    have greeting := handler.greetings_openLink now state note member
    cases note <;> first | rfl | cases greeting

/-- One exchange asks for one link at most and sends one request at most. -/
theorem Attempted.single {course : Course Note (State τ) (Except Fault α)}
    (attempted : handler.Attempted now state course) :
    (linkRequests (contents course.notes)).length ≤ 1 ∧
      (sendings (contents course.notes)).length ≤ 1 := by
  cases usable : (handler.ensureUsable now state).value with
  | error fault =>
    rw [attempted.blocked fault usable]
    exact ⟨Nat.zero_le 1, Nat.zero_le 1⟩
  | ok _ =>
    have underway := attempted.underway usable
    refine ⟨?_, ?_⟩
    · rw [underway.asked]
      split <;> simp
    · cases opened : (handler.openLink now state).value with
      | error fault =>
        rw [(underway.unopened fault opened).2.2]
        exact Nat.zero_le 1
      | ok _ =>
        obtain ⟨link, _, sent, _⟩ := underway.opened opened
        rw [sent]
        exact Nat.le_refl 1

/-- What becomes of the request of an exchange over a link that is open then. -/
def delivered (handler : Handler τ) (errand : Errand τ α) (keepAlive : Bool)
    (timeout : Option Nat) (node : List UInt8) (link : Link) (now : Nat) (state : State τ) :
    Course Note (State τ) (Except Fault Response) :=
  let opened := handler.openLink now state
  handler.deliver link (handler.outgoing errand keepAlive link) (callOf errand node timeout)
    (now + opened.took) opened.state

/-- A fault comes to an exchange of a handler that can be used from outside. -/
inductive Raised (handler : Handler τ) (errand : Errand τ α) (keepAlive : Bool)
    (timeout : Option Nat) (node : List UInt8) (now : Nat) (state : State τ) (raised : Fault) :
    Prop where
  | byLink (vacant : state.link = none)
      (refused : (handler.outside.createLink (handler.linkRequest state.session) now
        state.outside).value = .error raised)
  -- The transport raises it, and not as its own timeout.
  | byTransport (link : Link) (opened : (handler.openLink now state).value = .ok ())
      (held : (handler.openLink now state).state.link = some link)
      (failed : (handler.delivered errand keepAlive timeout node link now state).value =
        .error raised)
      (other : handler.outside.isTimeout raised = false)
  | byReceiver (link : Link) (response : Response)
      (opened : (handler.openLink now state).value = .ok ())
      (held : (handler.openLink now state).state.link = some link)
      (answered : (handler.delivered errand keepAlive timeout node link now state).value =
        .ok response)
      (refused : ((errand.receive response).run
        (handler.delivered errand keepAlive timeout node link now state).state.outside).1 =
          .error raised)

theorem exchange_of_refused {fault : Fault}
    (usable : (handler.ensureUsable now state).value = .ok ())
    (refused : (handler.openLink now state).value = .error fault) :
    handler.exchange errand keepAlive timeout now state =
      { handler.openLink now state with value := .error fault } := by
  cases handler.exchange_cases errand keepAlive timeout now state with
  | unusable fault blocked course => cases usable.symm.trans blocked
  | notOpened other usable again course =>
    cases refused.symm.trans again
    exact course
  | overLink link usable opened held course => cases refused.symm.trans opened

theorem exchange_of_opened (usable : (handler.ensureUsable now state).value = .ok ())
    (opened : (handler.openLink now state).value = .ok ())
    (held : (handler.openLink now state).state.link = some link) :
    handler.exchange errand keepAlive timeout now state =
      (handler.send errand keepAlive timeout link (now + (handler.openLink now state).took)
        (handler.openLink now state).state).after (handler.openLink now state) := by
  cases handler.exchange_cases errand keepAlive timeout now state with
  | unusable fault blocked course => cases usable.symm.trans blocked
  | notOpened fault usable refused course => cases opened.symm.trans refused
  | overLink other usable opened stillHeld course =>
    cases held.symm.trans stillHeld
    exact course

/-- What an exchange sends, and how it comes to that. -/
structure SentOut (handler : Handler τ) (errand : Errand τ α) (keepAlive : Bool)
    (timeout : Option Nat) (now : Nat) (state : State τ) (sentAt : Nat) (link : Link)
    (request : Request) (call : Call) : Prop where
  opened : (handler.openLink now state).value = .ok ()
  held : (handler.openLink now state).state.link = some link
  atOnce : sentAt = now + (handler.openLink now state).took
  requestIs : request = handler.outgoing errand keepAlive link
  callIs : ∃ node, handler.configuration.encode handler.managementTarget = .ok node ∧
    call = callOf errand node timeout
  course : handler.exchange errand keepAlive timeout now state =
    (handler.send errand keepAlive timeout link sentAt (handler.openLink now state).state).after
      (handler.openLink now state)

theorem eq_of_sent_send {used : Link} {sentAt : Nat} {request : Request} {call : Call}
    (sent : ⟨sentAt, .sent link request call⟩ ∈
      (handler.send errand keepAlive timeout used now state).notes) :
    sentAt = now ∧ link = used ∧ request = handler.outgoing errand keepAlive used ∧
      ∃ node, handler.configuration.encode handler.managementTarget = .ok node ∧
        call = callOf errand node timeout := by
  cases encoded : handler.configuration.encode handler.managementTarget with
  | error fault =>
    rw [handler.send_of_not_encoded errand keepAlive timeout used now state encoded] at sent
    cases sent
  | ok node =>
    rw [send_apply encoded] at sent
    dsimp only at sent
    rcases List.mem_cons.mp sent with other | sent
    · cases other
    · rcases List.mem_cons.mp sent with same | later
      · cases same
        exact ⟨rfl, rfl, rfl, node, rfl, rfl⟩
      · obtain ⟨⟨answers, answered⟩, _⟩ := handler.conclude_cases errand used
          (handler.outgoing errand keepAlive used) (callOf errand node timeout) now state
        have among : Note.sent link request call ∈ answers.map Note.answered := by
          rw [← answered]
          exact List.mem_map_of_mem later
        obtain ⟨response, _, other⟩ := List.mem_map.mp among
        cases other

theorem sentOut_of_sent {sentAt : Nat} {request : Request} {call : Call}
    (sent : ⟨sentAt, .sent link request call⟩ ∈
      (handler.exchange errand keepAlive timeout now state).notes) :
    handler.SentOut errand keepAlive timeout now state sentAt link request call := by
  cases handler.exchange_cases errand keepAlive timeout now state with
  | unusable fault blocked course =>
    rw [course] at sent
    cases sent
  | notOpened fault usable refused course =>
    rw [course] at sent
    have greeting := handler.greetings_openLink now state _ (List.mem_map_of_mem sent)
    cases greeting
  | overLink used usable opened held course =>
    rw [course, Activity.notes_after] at sent
    rcases List.mem_append.mp sent with early | sent
    · have greeting := handler.greetings_openLink now state _ (List.mem_map_of_mem early)
      cases greeting
    · obtain ⟨rfl, rfl, requestIs, callIs⟩ := eq_of_sent_send sent
      exact ⟨opened, held, rfl, requestIs, callIs, course⟩

/-- A fault from outside that is no timeout of the transport comes out of an exchange untouched. -/
theorem value_of_raised {raised : Fault}
    (usable : (handler.ensureUsable now state).value = .ok ())
    (encoded : handler.configuration.encode handler.managementTarget = .ok node)
    (came : handler.Raised errand keepAlive timeout node now state raised) :
    (handler.exchange errand keepAlive timeout now state).value = .error raised := by
  cases came with
  | byLink vacant refused =>
    have empty : ¬ (state.running = true ∧ state.link.isSome = true) := by simp [vacant]
    have opening := openLink_of_refused now (shutdown_of_usable usable) empty refused
    rw [exchange_of_refused usable (congrArg Course.value opening)]
  | byTransport link opened held failed other =>
    rw [exchange_of_opened usable opened held, Activity.value_after, send_apply encoded]
    dsimp only
    rw [conclude_of_error failed, named, other]
    rfl
  | byReceiver link response opened held answered refused =>
    rw [exchange_of_opened usable opened held, Activity.value_after, send_apply encoded]
    dsimp only
    rw [conclude_of_ok answered]
    exact refused

end Errands
end Handler
end BusLink
