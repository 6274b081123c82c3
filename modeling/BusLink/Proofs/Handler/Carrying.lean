import BusLink.Proofs.Handler.Reopening

set_option autoImplicit false

namespace BusLink

/-- Requests are addressed and links are named as they are by default. -/
structure Collaborators.Conventional {τ : Type} (outside : Collaborators τ) : Prop where
  address : ∀ message added configuration replyTo,
    outside.address message added configuration replyTo = message.address added replyTo
  linkName : ∀ link, outside.linkName link = link.name

namespace Json.Members

variable {key : String} {value : Json} {members : Members}

theorem mem_keys_put {other : String} :
    other ∈ (put key value members).map Prod.fst ↔ other = key ∨ other ∈ members.map Prod.fst := by
  induction members with
  | nil => simp [put]
  | cons member rest ih =>
    obtain ⟨name, old⟩ := member
    rw [put]
    split
    · rename_i same
      simp [same]
    · simp only [List.map_cons, List.mem_cons, ih]
      exact or_left_comm

theorem nodup_keys_put (distinct : (members.map Prod.fst).Nodup) :
    ((put key value members).map Prod.fst).Nodup := by
  induction members with
  | nil => simp [put]
  | cons member rest ih =>
    obtain ⟨name, old⟩ := member
    rw [List.map_cons, List.nodup_cons] at distinct
    rw [put]
    split
    · rename_i same
      rw [List.map_cons, List.nodup_cons]
      exact ⟨same ▸ distinct.1, distinct.2⟩
    · rename_i apart
      rw [List.map_cons, List.nodup_cons, mem_keys_put, not_or]
      exact ⟨⟨apart, distinct.1⟩, ih distinct.2⟩

end Json.Members

namespace Handler

variable {τ α : Type} {handler : Handler τ} {errand : Errand τ α} {keepAlive : Bool}
variable {timeout : Option Nat} {state : State τ} {now : Nat}

/-- What a request over a link carries of its errand. -/
structure Carries (handler : Handler τ) (errand : Errand τ α) (keepAlive : Bool) (link : Link)
    (request : Request) (call : Call) : Prop where
  body : request.body = errand.message.body
  replyTo : request.replyTo = handler.managementTarget
  operation : call.operation = errand.operation
  operationType : call.operationType = "entity-mgmt"
  node : call.node = handler.managementTarget.toUTF8.data.toList
  -- The name of the link wins over a property of the message.
  named : ∀ name, keepAlive = true → link.name = some name → ∀ key,
    request.properties.find? key =
      if key = "associated-link-name" then some (.text name)
      else errand.message.properties.find? key
  distinct : (errand.message.properties.map Prod.fst).Nodup →
    (request.properties.map Prod.fst).Nodup
  plain : keepAlive = false ∨ link.name = none →
    request.properties = errand.message.properties

/-- What the requests among notes of a run carry, and which links they go out over. -/
structure Carried (handler : Handler τ) (errand : Errand τ α) (keepAlive : Bool)
    (state : State τ) (notes : List Note) : Prop where
  carries : ∀ link request call, .sent link request call ∈ notes →
    handler.Carries errand keepAlive link request call
  -- When a request goes out, its link is the only one of those held since the start that was not
  -- told to close.
  current : ∀ before link request call, before ++ [.sent link request call] <+: notes →
    state.link.toList ++ grants before = closings before ++ [link] ∧ link ∉ closings before

section Messages

variable {link : Link} {request : Request} {call : Call}

theorem associated_of_named (conventional : handler.outside.Conventional) {name : String}
    (named : link.name = some name) :
    handler.associated true link = [(associatedLink, .text name)] := by
  simp only [associated, conventional.linkName, named]

theorem associated_of_plain (conventional : handler.outside.Conventional)
    (plain : keepAlive = false ∨ link.name = none) : handler.associated keepAlive link = [] := by
  rcases plain with rfl | unnamed
  · rfl
  · cases keepAlive <;> simp only [associated, conventional.linkName, unnamed]

theorem outgoing_eq (conventional : handler.outside.Conventional) (errand : Errand τ α)
    (keepAlive : Bool) (link : Link) :
    handler.outgoing errand keepAlive link =
      ⟨errand.message.body, errand.message.properties.merge (handler.associated keepAlive link),
        handler.managementTarget⟩ :=
  conventional.address _ _ _ _

theorem eq_bytes_of_encode {configuration : Configuration} {address : String} {node : List UInt8}
    (encoded : configuration.encode address = .ok node) : node = Text.bytes address := by
  unfold Configuration.encode at encoded
  dsimp only at encoded
  split at encoded
  · exact (Except.ok.inj encoded).symm
  · cases encoded

theorem carries_outgoing (conventional : handler.outside.Conventional) {node : List UInt8}
    (encoded : handler.configuration.encode handler.managementTarget = .ok node) :
    handler.Carries errand keepAlive link (handler.outgoing errand keepAlive link)
      (callOf errand node timeout) := by
  have request := outgoing_eq conventional errand keepAlive link
  have named (name : String) (asked : keepAlive = true) (called : link.name = some name) :
      (handler.outgoing errand keepAlive link).properties =
        errand.message.properties.put associatedLink (.text name) := by
    rw [request, asked, associated_of_named conventional called]
    rfl
  have plain (unasked : keepAlive = false ∨ link.name = none) :
      (handler.outgoing errand keepAlive link).properties = errand.message.properties := by
    rw [request, associated_of_plain conventional unasked]
    rfl
  refine ⟨?_, ?_, rfl, rfl, ?_, ?_, ?_, plain⟩
  · rw [request]
  · rw [request]
  · exact (eq_bytes_of_encode encoded).trans (Text.bytes_eq_toUTF8 _)
  · intro name asked called key
    rw [named name asked called, Json.Members.find?_put, associatedLink]
    simp only [eq_comm]
  · intro distinct
    by_cases unasked : keepAlive = false ∨ link.name = none
    · rw [plain unasked]
      exact distinct
    · rw [not_or, Bool.not_eq_false, ← ne_eq, Option.ne_none_iff_exists'] at unasked
      obtain ⟨asked, name, called⟩ := unasked
      rw [named name asked called]
      exact Json.Members.nodup_keys_put distinct

theorem carries_of_sent (conventional : handler.outside.Conventional) {sentAt : Nat}
    (sent : ⟨sentAt, .sent link request call⟩ ∈
      (handler.exchange errand keepAlive timeout now state).notes) :
    handler.Carries errand keepAlive link request call := by
  obtain ⟨_, _, _, rfl, ⟨node, encoded, rfl⟩, _⟩ := sentOut_of_sent sent
  exact carries_outgoing conventional encoded

/-- In a run of attempts each of them sends what an exchange sends. -/
theorem carries_of_sent_retrying (conventional : handler.outside.Conventional) {sentAt : Nat}
    (sent : ⟨sentAt, .sent link request call⟩ ∈
      (handler.exchangeRetrying errand timeout now state).notes) :
    handler.Carries errand true link request call := by
  let job := handler.errandJob errand timeout
  have only : job.AttemptsOnly Note.sentOver? := attemptsOnly_job Note.ofAttempts_sentOver? _ _
  obtain ⟨last, account⟩ := Retry.Job.account_of_mem sent
  obtain ⟨index, _, among⟩ := only.mem_run account sent rfl
  exact carries_of_sent conventional among

end Messages

section Links

/-- The links that are held are older than those to come. -/
def State.Numbered (state : State τ) : Prop :=
  ∀ link, state.link = some link → link.serial < state.opened

theorem Move.numbered {first second : State τ} {notes : List Note}
    (move : handler.Move first notes second) (before : first.Numbered) : second.Numbered := by
  intro link held
  cases move with
  | recorded change same lost => exact before link held
  | condemned session fault bound running ends => exact before link held
  | link move =>
    cases move with
    | aside note aside => exact before link held
    | outside world => exact before link held
    | granted name usable vacant =>
      cases held
      exact Nat.lt_succ_self _
    | sent link request call same => exact before _ held
    | dropped link fault world same => cases held
    | stopped vacant => cases held
    | shut vacant => exact before link held

theorem Reachable.numbered (reachable : handler.Reachable state) : state.Numbered :=
  reachable.keeps (fun _ _ _ held => by cases held) Move.numbered

/-- A link that is handed over is none that was held before. -/
theorem nodup_held {first second : State τ} {notes : List Note} (numbered : first.Numbered)
    (chain : Chain handler.Move first notes second) :
    (first.link.toList ++ grants notes).Nodup := by
  obtain ⟨count, later⟩ := serials_of_chain chain
  refine List.nodup_append.mpr ⟨?_, nodup_grants chain, ?_⟩
  · cases first.link <;> simp
  · -- Links to come are numbered from where those before leave off.
    rintro link held _ granted rfl
    have older := numbered link (Option.mem_toList.mp held)
    have newer : link.serial ∈ serials notes := List.mem_map_of_mem granted
    rw [later, List.mem_range'_1] at newer
    omega

theorem current_of_chain {first second : State τ} {notes : List Note}
    (consistent : first.Consistent) (numbered : first.Numbered)
    (chain : Chain handler.Move first notes second) {before : List Note} {link : Link}
    {request : Request} {call : Call} (early : before ++ [.sent link request call] <+: notes) :
    first.link.toList ++ grants before = closings before ++ [link] ∧ link ∉ closings before := by
  have fresh := nodup_held numbered chain
  rw [← Phase.owned_ofLink first.link] at fresh ⊢
  exact (path_of_chain chain consistent).owned_of_sent fresh early

theorem carried_of_run (reachable : handler.Reachable state) {β : Type} (program : Program τ β)
    (carries : ∀ sentAt link request call,
      ⟨sentAt, .sent link request call⟩ ∈ (program.run handler now state).notes →
        handler.Carries errand keepAlive link request call) :
    handler.Carried errand keepAlive state (contents (program.run handler now state).notes) := by
  constructor
  · intro link request call sent
    obtain ⟨⟨sentAt, _⟩, among, rfl⟩ := List.mem_map.mp sent
    exact carries sentAt link request call among
  · intro before link request call early
    exact current_of_chain reachable.consistent reachable.numbered
      (program.follows_run handler now state) early

end Links

/-- An outside with the names of the links to come. The connection is gone after every request until
there are none left. -/
def shiftingNames : Collaborators (List (Option String)) where
  clock := Rehearsal.clock
  createLink := fun _ _ names => ⟨.ok names.head?.join, 0, [], names.tail⟩
  closeLink := fun _ _ names => ⟨.ok (), 0, [], names⟩
  request := fun _ _ _ _ names =>
    ⟨if names.isEmpty then .ok ⟨200, none, .null, []⟩ else .error (.connection "gone" none), 0, [],
      names⟩
  wallClock := fun _ => 0

def renamesLinks : Handler (List (Option String)) :=
  { onStage with outside := shiftingNames }

def marked : Errand (List (Option String)) Nat where
  operation := "peek"
  message := ⟨.null, [("associated-link-name", .text "mine"), ("mark", .bool true)]⟩
  receive := fun response => pure (.ok response.status)

end Handler
end BusLink
