import BusLink.Proofs.Handler.Running
import Mathlib.Data.List.Chain

set_option autoImplicit false

namespace BusLink

namespace Note

def granted? : Note → Option Link
  | .linkGranted link => some link
  | _ => none

def closing? : Note → Option Link
  | .linkClosing link => some link
  | _ => none

def released? : Note → Option (Link × Option Fault)
  | .linkReleased link fault => some (link, fault)
  | _ => none

end Note

namespace Event

def isOpening : Event → Bool
  | .linkOpened .. => true
  | _ => false

def isEnding : Event → Bool
  | .linkClosed _ | .linkCloseFailed .. => true
  | _ => false

def linkThere? (event : Event) : Option Bool :=
  if event.isOpening then some true else if event.isEnding then some false else none

end Event

namespace Note

/-- Whether a note says something about a link that is there. -/
def aboutLink : Note → Bool
  | .linkGranted _ | .linkClosing _ | .linkReleased .. | .sent .. => true
  | .event report => report.isOpening || report.isEnding
  | _ => false

variable {note : Note}

theorem aboutLink_of_aside (aside : note.isAside = true) : note.aboutLink = false := by
  cases note with
  | event event => cases event <;> first | rfl | cases aside
  | _ => first | rfl | cases aside

theorem granted?_of_other (other : note.aboutLink = false) : note.granted? = none := by
  cases note <;> first | rfl | cases other

theorem closing?_of_other (other : note.aboutLink = false) : note.closing? = none := by
  cases note <;> first | rfl | cases other

theorem released?_of_other (other : note.aboutLink = false) : note.released? = none := by
  cases note <;> first | rfl | cases other

theorem opening_of_other (other : note.aboutLink = false) :
    note.event?.filter Event.isOpening = none := by
  cases note with
  | event event => cases event <;> first | rfl | cases other
  | _ => rfl

theorem ending_of_other (other : note.aboutLink = false) :
    note.event?.filter Event.isEnding = none := by
  cases note with
  | event event => cases event <;> first | rfl | cases other
  | _ => rfl

theorem linkThere?_of_other (other : note.aboutLink = false) :
    note.event?.bind Event.linkThere? = none := by
  cases note with
  | event event => cases event <;> first | rfl | cases other
  | _ => rfl

end Note

/-- The links that notes hand over, in order. -/
def grants (notes : List Note) : List Link := notes.filterMap Note.granted?

def closings (notes : List Note) : List Link := notes.filterMap Note.closing?

def releases (notes : List Note) : List (Link × Option Fault) := notes.filterMap Note.released?

namespace Handler

variable {τ α : Type} {handler : Handler τ}

/-- How far a link has come. -/
inductive Phase where
  | idle
  -- The link is there, but not reported yet.
  | granted (link : Link)
  | held (link : Link)
  | closing (link : Link)
  -- The link is gone, but not reported yet.
  | released (fault : Option Fault)

namespace Phase

def ofLink : Option Link → Phase
  | none => idle
  | some link => held link

def owned : Phase → Option Link
  | .granted link | .held link => some link
  | _ => none

def leaving : Phase → List Link
  | .closing link => [link]
  | _ => []

/-- The opening that is not reported yet. -/
def openingDue (handler : Handler τ) : Phase → List Event
  | .granted _ => [.linkOpened handler.container handler.entityPath]
  | _ => []

/-- The ending that is not reported yet. -/
def endingDue (handler : Handler τ) : Phase → List Event
  | .released fault => [handler.closeEvent fault]
  | _ => []

def isReported : Phase → Bool
  | .held _ | .closing _ | .released _ => true
  | _ => false

@[simp] theorem owned_ofLink (link : Option Link) : (ofLink link).owned = link := by
  cases link <;> rfl

@[simp] theorem leaving_ofLink (link : Option Link) : (ofLink link).leaving = [] := by
  cases link <;> rfl

@[simp] theorem openingDue_ofLink (handler : Handler τ) (link : Option Link) :
    (ofLink link).openingDue handler = [] := by
  cases link <;> rfl

@[simp] theorem endingDue_ofLink (handler : Handler τ) (link : Option Link) :
    (ofLink link).endingDue handler = [] := by
  cases link <;> rfl

/-- From one phase to the next by one note. -/
inductive Step (handler : Handler τ) : Phase → Note → Phase → Prop where
  | other (phase : Phase) (note : Note) (other : note.aboutLink = false) :
      Step handler phase note phase
  | grant (link : Link) : Step handler .idle (.linkGranted link) (.granted link)
  | reportOpening (link : Link) :
      Step handler (.granted link) (.event (.linkOpened handler.container handler.entityPath))
        (.held link)
  | send (link : Link) (request : Request) (call : Call) :
      Step handler (.held link) (.sent link request call) (.held link)
  | close (link : Link) : Step handler (.held link) (.linkClosing link) (.closing link)
  | release (link : Link) (fault : Option Fault) :
      Step handler (.closing link) (.linkReleased link fault) (.released fault)
  | reportEnding (fault : Option Fault) :
      Step handler (.released fault) (.event (handler.closeEvent fault)) .idle

inductive Path (handler : Handler τ) : Phase → List Note → Phase → Prop where
  | nil (phase : Phase) : Path handler phase [] phase
  | cons {first second third : Phase} {note : Note} {notes : List Note}
      (step : Step handler first note second) (rest : Path handler second notes third) :
      Path handler first (note :: notes) third

namespace Path

variable {first second third : Phase} {notes more : List Note}

theorem append (start : Path handler first notes second) (rest : Path handler second more third) :
    Path handler first (notes ++ more) third := by
  induction start with
  | nil phase => exact rest
  | cons step _ ih => exact .cons step (ih rest)

theorem split (path : Path handler first (notes ++ more) third) :
    ∃ second, Path handler first notes second ∧ Path handler second more third := by
  induction notes generalizing first with
  | nil => exact ⟨first, .nil first, path⟩
  | cons note notes ih =>
    cases path with
    | cons step rest =>
      obtain ⟨second, start, rest⟩ := ih rest
      exact ⟨second, .cons step start, rest⟩

/-- What is pending in a phase and what comes in by the notes is what goes out by them and what is
still pending. -/
theorem balance {β : Type} (pending : Phase → List β) (comes goes : Note → Option β)
    (each : ∀ {first note second}, Step handler first note second →
      pending first ++ (comes note).toList = (goes note).toList ++ pending second)
    (path : Path handler first notes second) :
    pending first ++ notes.filterMap comes = notes.filterMap goes ++ pending second := by
  induction path with
  | nil phase => simp
  | @cons first second third note notes step _ ih =>
    have unfolded (part : Note → Option β) :
        (note :: notes).filterMap part = (part note).toList ++ notes.filterMap part := by
      cases answer : part note <;> simp [answer]
    rw [unfolded, unfolded, ← List.append_assoc, each step, List.append_assoc, ih,
      List.append_assoc]

/-- Every link that was handed over was told to close, in order, or is owned still. -/
theorem ledger (path : Path handler first notes second) :
    first.owned.toList ++ grants notes = closings notes ++ second.owned.toList := by
  refine path.balance (·.owned.toList) Note.granted? Note.closing? fun step => ?_
  cases step with
  | other phase note other =>
    rw [Note.granted?_of_other other, Note.closing?_of_other other]
    exact List.append_nil _
  | _ => rfl

theorem owned_of_sent {before : List Note} {link : Link} {request : Request} {call : Call}
    (path : Path handler first notes second)
    (fresh : (first.owned.toList ++ grants notes).Nodup)
    (early : before ++ [.sent link request call] <+: notes) :
    first.owned.toList ++ grants before = closings before ++ [link] ∧ link ∉ closings before := by
  obtain ⟨rest, rfl⟩ := early
  obtain ⟨_, sending, _⟩ := path.split
  obtain ⟨phase, start, sent⟩ := sending.split
  have account : first.owned.toList ++ grants before = closings before ++ phase.owned.toList :=
    start.ledger
  -- There is one phase only from which the path can go on with a request.
  have holds : phase.owned = some link := by
    cases sent with
    | cons step _ =>
      cases step with
      | other phase note other => cases other
      | send link request call => rfl
  rw [holds, Option.toList_some] at account
  have different : (closings before ++ [link]).Nodup := by
    rw [← account]
    refine fresh.sublist (List.Sublist.append_left ?_ _)
    rw [List.append_assoc]
    exact (List.sublist_append_left _ _).filterMap _
  rw [List.nodup_append] at different
  exact ⟨account, fun gone => different.2.2 link gone link (List.mem_singleton_self link) rfl⟩

theorem closings_released (path : Path handler first notes second) :
    first.leaving ++ closings notes = (releases notes).map Prod.fst ++ second.leaving := by
  rw [releases, List.map_filterMap]
  refine path.balance leaving Note.closing? _ fun step => ?_
  cases step with
  | other phase note other =>
    rw [Note.closing?_of_other other, Note.released?_of_other other]
    exact List.append_nil _
  | _ => rfl

theorem openings_reported (path : Path handler first notes second) :
    first.openingDue handler ++
        (grants notes).map (fun _ => .linkOpened handler.container handler.entityPath) =
      (reports notes).filter Event.isOpening ++ second.openingDue handler := by
  rw [grants, List.map_filterMap, reports, List.filter_filterMap]
  refine path.balance (openingDue handler) _ _ fun step => ?_
  cases step with
  | other phase note other =>
    rw [Note.granted?_of_other other, Note.opening_of_other other]
    exact List.append_nil _
  | reportEnding fault => cases fault <;> rfl
  | _ => rfl

theorem endings_reported (path : Path handler first notes second) :
    first.endingDue handler ++ (releases notes).map (fun gone => handler.closeEvent gone.2) =
      (reports notes).filter Event.isEnding ++ second.endingDue handler := by
  rw [releases, List.map_filterMap, reports, List.filter_filterMap]
  refine path.balance (endingDue handler) _ _ fun step => ?_
  cases step with
  | other phase note other =>
    rw [Note.released?_of_other other, Note.ending_of_other other]
    exact List.append_nil _
  | reportEnding fault => cases fault <;> rfl
  | _ => rfl

/-- Reports of openings and endings take turns. -/
theorem alternates (path : Path handler first notes second) :
    List.IsChain (· ≠ ·) (first.isReported :: (reports notes).filterMap Event.linkThere?) := by
  rw [reports, List.filterMap_filterMap]
  induction path with
  | nil phase => exact .singleton _
  | @cons first second third note notes step _ ih =>
    rw [List.filterMap_cons]
    cases step with
    | other phase note other =>
      rw [Note.linkThere?_of_other other]
      exact ih
    | reportOpening link => exact .cons_cons Bool.false_ne_true ih
    | reportEnding fault => cases fault <;> exact .cons_cons Bool.false_ne_true.symm ih
    | _ => exact ih

end Path
end Phase

theorem LinkMove.path {first second : State τ} {notes : List Note}
    (move : handler.LinkMove first notes second) (before : first.Consistent) :
    Phase.Path handler (.ofLink first.link) notes (.ofLink second.link) := by
  cases move with
  | aside note aside => exact .cons (.other _ note (Note.aboutLink_of_aside aside)) (.nil _)
  | outside world => exact .nil _
  | granted name usable vacant =>
    rw [before.link_eq_none vacant]
    exact .cons (.grant _) (.cons (.reportOpening _) (.nil _))
  | sent link request call held =>
    rw [held]
    exact .cons (.send link request call) (.nil _)
  | dropped link fault world held =>
    rw [held]
    exact .cons (.close link) (.cons (.release link fault) (.cons (.reportEnding fault) (.nil _)))
  | stopped vacant =>
    rw [vacant]
    exact .nil _
  | shut vacant => exact .nil _

theorem Move.path {first second : State τ} {notes : List Note}
    (move : handler.Move first notes second) (before : first.Consistent) :
    Phase.Path handler (.ofLink first.link) notes (.ofLink second.link) := by
  cases move with
  | link move => exact move.path before
  | recorded change same lost => exact .nil _
  | condemned session fault bound running ends => exact .cons (.other _ _ rfl) (.nil _)

/-- The notes of a chain of moves are a path through the phases of links. -/
theorem path_of_chain {first second : State τ} {notes : List Note}
    (chain : Chain handler.Move first notes second) (before : first.Consistent) :
    Phase.Path handler (.ofLink first.link) notes (.ofLink second.link) := by
  induction chain with
  | still state => exact .nil _
  | move move _ ih => exact (move.path before).append (ih (move.consistent before))

def serials (notes : List Note) : List Nat := (grants notes).map Link.serial

theorem serials_append (first second : List Note) :
    serials (first ++ second) = serials first ++ serials second := by
  simp only [serials, grants, List.filterMap_append, List.map_append]

theorem Move.serials {first second : State τ} {notes : List Note}
    (move : handler.Move first notes second) :
    ∃ count, serials notes = List.range' first.opened count ∧
      second.opened = first.opened + count := by
  cases move with
  | recorded change same lost => exact ⟨0, rfl, rfl⟩
  | condemned session fault bound running ends => exact ⟨0, rfl, rfl⟩
  | link move =>
    cases move with
    | granted name usable vacant => exact ⟨1, rfl, rfl⟩
    | aside note aside =>
      refine ⟨0, ?_, rfl⟩
      simp only [Handler.serials, grants, List.filterMap_cons,
        Note.granted?_of_other (Note.aboutLink_of_aside aside)]
      rfl
    | _ => exact ⟨0, rfl, rfl⟩

/-- Links are numbered one after another. -/
theorem serials_of_chain {first second : State τ} {notes : List Note}
    (chain : Chain handler.Move first notes second) :
    ∃ count, serials notes = List.range' first.opened count := by
  induction chain with
  | still state => exact ⟨0, rfl⟩
  | @move first second third notes more move _ ih =>
    obtain ⟨count, numbered, reached⟩ := move.serials
    obtain ⟨further, later⟩ := ih
    refine ⟨count + further, ?_⟩
    rw [serials_append, numbered, later, reached, List.range'_append_1]

theorem nodup_grants {first second : State τ} {notes : List Note}
    (chain : Chain handler.Move first notes second) : (grants notes).Nodup := by
  obtain ⟨count, numbered⟩ := serials_of_chain chain
  have different : (serials notes).Nodup := by
    rw [numbered]
    exact List.nodup_range'
  exact List.Pairwise.of_map Link.serial (fun _ _ apart same => apart (congrArg Link.serial same))
    different

/-- What becomes of the links that notes hand over when a certain link is held at the end. -/
structure Owned (handler : Handler τ) (notes : List Note) (last : Option Link) : Prop where
  fresh : (grants notes).Nodup
  -- A link is held and was never told to close, or was told to close once.
  once : ∀ link ∈ grants notes,
    (last = some link ∧ link ∉ closings notes) ∨
      (last ≠ some link ∧ (closings notes).count link = 1)
  -- No other link is held or told to close.
  granted : ∀ link, last = some link ∨ link ∈ closings notes → link ∈ grants notes
  -- At any time all links but one at most are told to close, the older ones first.
  single : ∀ before, before <+: notes →
    ∃ held : Option Link, grants before = closings before ++ held.toList
  -- A request goes out over the link that is held then.
  used : ∀ before link request call, before ++ [.sent link request call] <+: notes →
    grants before = closings before ++ [link] ∧ link ∉ closings before
  alternating :
    List.IsChain (· ≠ ·) (false :: (reports notes).filterMap Event.linkThere?)
  openings : (reports notes).filter Event.isOpening =
    (grants notes).map fun _ => .linkOpened handler.container handler.entityPath
  closed : (releases notes).map Prod.fst = closings notes
  endings : (reports notes).filter Event.isEnding =
    (releases notes).map fun gone => handler.closeEvent gone.2

theorem owned_of_path {notes : List Note} {last : Option Link} (fresh : (grants notes).Nodup)
    (path : Phase.Path handler .idle notes (.ofLink last)) : handler.Owned notes last := by
  have ledger : grants notes = closings notes ++ last.toList := by
    rw [← Phase.owned_ofLink last]
    exact path.ledger
  have upTo (before : List Note) (early : before <+: notes) :
      ∃ phase, Phase.Path handler .idle before phase ∧
        grants before = closings before ++ phase.owned.toList := by
    obtain ⟨rest, whole⟩ := early
    rw [← whole] at path
    obtain ⟨phase, start, _⟩ := path.split
    exact ⟨phase, start, start.ledger⟩
  -- What is closed and what is held are the two parts of one list without repetitions.
  have apart := fresh
  rw [ledger, List.nodup_append] at apart
  obtain ⟨closedOnce, _, notHeld⟩ := apart
  constructor
  · exact fresh
  · intro link handedOver
    rw [ledger, List.mem_append, Option.mem_toList] at handedOver
    by_cases gone : link ∈ closings notes
    · right
      refine ⟨fun held => ?_, ?_⟩
      · exact notHeld link gone link (by rw [held]; exact List.mem_singleton_self link) rfl
      · rw [closedOnce.count, if_pos gone]
    · exact .inl ⟨handedOver.resolve_left gone, gone⟩
  · intro link known
    rw [ledger, List.mem_append, Option.mem_toList]
    exact known.symm
  · intro before early
    obtain ⟨phase, _, account⟩ := upTo before early
    exact ⟨phase.owned, account⟩
  · intro before link request call early
    exact path.owned_of_sent fresh early
  · exact path.alternates
  · have reported := path.openings_reported
    rw [Phase.openingDue_ofLink, List.append_nil] at reported
    exact reported.symm
  · have released := path.closings_released
    rw [Phase.leaving_ofLink, List.append_nil] at released
    exact released.symm
  · have reported := path.endings_reported
    rw [Phase.endingDue_ofLink, List.append_nil] at reported
    exact reported.symm

end Handler
end BusLink
