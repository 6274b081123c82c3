import BusLink.Fault.Classify
import BusLink.Note
import Mathlib.Data.List.Forall2

set_option autoImplicit false

namespace BusLink

variable {σ α : Type} {first second : Option String}

def Configuration.rerouted (configuration : Configuration) (endpoint : Option String) :
    Configuration :=
  { configuration with customEndpoint := endpoint }

def LinkRequest.rerouted (request : LinkRequest) (endpoint : Option String) : LinkRequest :=
  { request with configuration := request.configuration.rerouted endpoint }

/-- The same fault, or the same lost connection as worded for either endpoint. -/
inductive Fault.Reworded (first second : Option String) : Fault → Fault → Prop where
  | same (fault : Fault) : Reworded first second fault fault
  | loss (raw : RawFailure) : Reworded first second
      (.connection (raw.lossReason first) (some (.raw raw)))
      (.connection (raw.lossReason second) (some (.raw raw)))

inductive Event.Reworded (first second : Option String) : Event → Event → Prop where
  | same (event : Event) : Reworded first second event event
  | retrying (entity : String) (attempt : UInt32) (delay : Nat) {fault other : Fault}
      (worded : fault.Reworded first second other) :
      Reworded first second (.retrying entity attempt delay fault)
        (.retrying entity attempt delay other)
  | retryExhausted (entity : String) (attempts : UInt32) {fault other : Fault}
      (worded : fault.Reworded first second other) :
      Reworded first second (.retryExhausted entity attempts fault)
        (.retryExhausted entity attempts other)
  | retryTimedOut (entity : String) {fault other : Fault}
      (worded : fault.Reworded first second other) :
      Reworded first second (.retryTimedOut entity fault) (.retryTimedOut entity other)
  | sessionLockLost (container session : String) {fault other : Fault}
      (worded : fault.Reworded first second other) :
      Reworded first second (.sessionLockLost container session fault)
        (.sessionLockLost container session other)

structure Retry.Context.Reworded (first second : Option String) (told other : Retry.Context) :
    Prop where
  attempt : other.attempt = told.attempt
  remaining : other.remaining = told.remaining
  lastFault : Option.Rel (Fault.Reworded first second) told.lastFault other.lastFault

/-- The same note. An event may be reworded, an attempt may be told a reworded fault, and a request
for a link holds the configuration with its endpoint. -/
inductive Note.Reworded (first second : Option String) : Note → Note → Prop where
  | same (note : Note) : Reworded first second note note
  | event {event other : Event} (worded : event.Reworded first second other) :
      Reworded first second (.event event) (.event other)
  | attempt {told other : Retry.Context} (worded : told.Reworded first second other) :
      Reworded first second (.attempt told) (.attempt other)
  | linkRequested (request : LinkRequest) :
      Reworded first second (.linkRequested (request.rerouted first))
        (.linkRequested (request.rerouted second))

inductive Answer.Reworded (first second : Option String) (values : α → α → Prop) :
    Except Fault α → Except Fault α → Prop where
  | ok {value other : α} (matching : values value other) :
      Reworded first second values (.ok value) (.ok other)
  | error {fault other : Fault} (worded : fault.Reworded first second other) :
      Reworded first second values (.error fault) (.error other)

/-- Notes that were made at the same instants and are the same but for their wording. -/
def Abreast (first second : Option String) (notes others : List (Stamped Note)) : Prop :=
  List.Forall₂
    (fun note other => other.instant = note.instant ∧ note.what.Reworded first second other.what)
    notes others

/-- Two courses that take the same time and leave the same state. Their values match, and their
notes are the same but for the wording. -/
structure Course.InStep (first second : Option String) (values : α → α → Prop)
    (course other : Course Note σ α) : Prop where
  value : values course.value other.value
  took : other.took = course.took
  notes : Abreast first second course.notes other.notes
  state : other.state = course.state

section Faults

variable {fault other : Fault} (worded : fault.Reworded first second other)

include worded

theorem Fault.Reworded.shutsDown : other.shutsDown = fault.shutsDown := by
  cases worded <;> rfl

theorem Fault.Reworded.retryable : other.retryable = fault.retryable := by
  cases worded <;> rfl

theorem Fault.Reworded.endsSession : other.endsSession = fault.endsSession := by
  cases worded <;> rfl

/-- A lost connection is no timeout, so it ends a call as it is. -/
theorem Fault.Reworded.terminal : fault.terminal.Reworded first second other.terminal := by
  cases worded with
  | same fault => exact .same _
  | loss raw => exact .loss raw

end Faults

/-- The endpoint takes part in the meaning of a raw failure only where a connection was lost. -/
theorem RawFailure.classify_reworded (raw : RawFailure) (first second : Option String) :
    (raw.classify first).Reworded first second (raw.classify second) := by
  unfold classify
  cases raw.known? with
  | some condition => exact .same _
  | none =>
    dsimp only
    unfold byKind
    cases raw.kind with
    | connectionClosed | sessionEnded | linkDetached => exact .loss raw
    | timeout | authenticationFailed | protocol => exact .same _

theorem Fault.classify_reworded (fault : Fault) (first second : Option String) :
    (fault.classify first).Reworded first second (fault.classify second) := by
  cases fault with
  | raw failure => exact failure.classify_reworded first second
  | _ => exact .same _

theorem abreast_self (notes : List (Stamped Note)) : Abreast first second notes notes :=
  List.forall₂_same.mpr fun note _ => ⟨rfl, .same note.what⟩

theorem abreast_single (instant : Nat) {note other : Note}
    (worded : note.Reworded first second other) :
    Abreast first second [⟨instant, note⟩] [⟨instant, other⟩] :=
  .cons ⟨rfl, worded⟩ .nil

theorem Abreast.append {notes others more rest : List (Stamped Note)}
    (start : Abreast first second notes others) (onward : Abreast first second more rest) :
    Abreast first second (notes ++ more) (others ++ rest) :=
  List.rel_append start onward

end BusLink
