import BusLink.Fault.Classify

set_option autoImplicit false

namespace BusLink

namespace Fault

/-- A fault without all that it carries. -/
inductive Variant where
  | connection
  | serverBusy
  | authentication
  | entityNotFound
  | messageLockLost
  | messageSizeExceeded
  | sessionLockLost
  | sessionCannotBeLocked
  | operationTimeout
  | invalidState
  | invalidArgument
  | configuration
  | transport
  | raw
  | iterationStopped
  | missingDependency
deriving DecidableEq, Repr

def variant : Fault → Variant
  | .connection .. => .connection
  | .serverBusy _ => .serverBusy
  | .authentication _ => .authentication
  | .entityNotFound _ => .entityNotFound
  | .messageLockLost _ => .messageLockLost
  | .messageSizeExceeded _ => .messageSizeExceeded
  | .sessionLockLost .. => .sessionLockLost
  | .sessionCannotBeLocked _ => .sessionCannotBeLocked
  | .operationTimeout .. => .operationTimeout
  | .invalidState _ => .invalidState
  | .invalidArgument _ => .invalidArgument
  | .configuration _ => .configuration
  | .transport .. => .transport
  | .raw _ => .raw
  | .iterationStopped => .iterationStopped
  | .missingDependency _ => .missingDependency

/-- All that a fault says about what happens next. -/
structure Flags where
  retryable : Bool := false
  shutsDown : Bool := false
  isAbort : Bool := false
  isTimeout : Bool := false
  endsSession : Bool := false
deriving DecidableEq, Repr

def flags (fault : Fault) : Flags where
  retryable := fault.retryable
  shutsDown := fault.shutsDown
  isAbort := fault.isAbort
  isTimeout := fault.isTimeout
  endsSession := fault.endsSession

def reason? : Fault → Option String
  | .connection reason _ | .serverBusy reason | .authentication reason => some reason
  | .entityNotFound reason | .messageLockLost reason | .messageSizeExceeded reason => some reason
  | .sessionLockLost reason _ | .sessionCannotBeLocked reason => some reason
  | .operationTimeout reason _ | .invalidState reason | .invalidArgument reason => some reason
  | .configuration reason | .transport reason .. | .missingDependency reason => some reason
  | .raw _ | .iterationStopped => none

namespace Variant

/-- The flags that go with a variant. The opinion of the transport counts where a failure is its
own affair. -/
def flags (opinion : Bool) : Variant → Flags
  | .connection => { retryable := true, shutsDown := true, endsSession := true }
  | .serverBusy => { retryable := true }
  | .sessionCannotBeLocked => { retryable := true, shutsDown := true }
  | .operationTimeout => { retryable := true, isTimeout := true }
  | .authentication | .entityNotFound => { shutsDown := true }
  | .sessionLockLost => { endsSession := true }
  | .transport | .raw => { retryable := opinion, shutsDown := true }
  | .iterationStopped | .missingDependency => { isAbort := true }
  | .messageLockLost | .messageSizeExceeded => {}
  | .invalidState | .invalidArgument | .configuration => {}

/-- Whether a raw failure that becomes such a fault stays behind it. -/
def keepsCause : Variant → Bool
  | .connection | .sessionLockLost | .operationTimeout => true
  | _ => false

end Variant

end Fault

namespace RawFailure

/-- The fault that a known condition stands for. -/
def Condition.variant : Condition → Fault.Variant
  | .serverBusy => .serverBusy
  | .notFound | .entityNotFound => .entityNotFound
  | .sessionLockLost => .sessionLockLost
  | .sessionCannotBeLocked => .sessionCannotBeLocked
  | .unauthorizedAccess => .authentication
  | .messageLockLost => .messageLockLost
  | .messageSizeExceeded => .messageSizeExceeded
  | .timeout => .operationTimeout

/-- The fault that a kind stands for where no known condition says anything else. -/
def Kind.variant : Kind → Fault.Variant
  | .timeout => .operationTimeout
  | .connectionClosed | .sessionEnded | .linkDetached => .connection
  | .authenticationFailed => .authentication
  | .protocol => .transport

def remark : Option String → String
  | none => ""
  | some endpoint => " (custom endpoint address: " ++ endpoint ++ ")"

variable (raw : RawFailure) (endpoint : Option String)

theorem known?_eq_some_iff {raw : RawFailure} {condition : Condition} :
    raw.known? = some condition ↔ raw.condition = some condition.symbol := by
  constructor
  · intro known
    obtain ⟨symbol, given, found⟩ := Option.bind_eq_some_iff.mp known
    rw [given, Condition.symbol_of_ofSymbol? found]
  · intro given
    rw [known?, given, Option.bind_some, Condition.ofSymbol?_symbol]

theorem known?_eq_none_iff {raw : RawFailure} :
    raw.known? = none ↔ ∀ condition : Condition, raw.condition ≠ some condition.symbol := by
  rw [Option.eq_none_iff_forall_ne_some]
  exact forall_congr' fun condition => not_congr known?_eq_some_iff

theorem isRaw_byCondition (condition : Condition) : (raw.byCondition condition).isRaw = false := by
  cases condition <;> rfl

theorem isRaw_byKind : (raw.byKind endpoint).isRaw = false := by
  unfold byKind
  cases raw.kind <;> rfl

theorem isRaw_classify : (raw.classify endpoint).isRaw = false := by
  unfold classify
  cases raw.known? with
  | some condition => exact raw.isRaw_byCondition condition
  | none => exact raw.isRaw_byKind endpoint

theorem variant_byCondition (condition : Condition) :
    (raw.byCondition condition).variant = condition.variant := by
  cases condition <;> rfl

theorem variant_byKind : (raw.byKind endpoint).variant = raw.kind.variant := by
  unfold byKind
  cases raw.kind <;> rfl

theorem flags_byCondition (condition : Condition) (opinion : Bool) :
    (raw.byCondition condition).flags = condition.variant.flags opinion := by
  cases condition <;> rfl

theorem flags_byKind : (raw.byKind endpoint).flags = raw.kind.variant.flags raw.retryable := by
  unfold byKind
  cases raw.kind <;> rfl

theorem lossReason_eq : raw.lossReason endpoint = raw.description ++ remark endpoint := by
  cases endpoint with
  | none => exact String.append_empty.symm
  | some endpoint =>
    unfold lossReason remark
    rw [← String.append_assoc, ← String.append_assoc]

theorem remark_eq_empty_iff : remark endpoint = "" ↔ endpoint.isSome = false := by
  cases endpoint with
  | none => exact iff_of_true rfl rfl
  | some endpoint =>
    refine iff_of_false ?_ (by simp)
    intro empty
    unfold remark at empty
    have last := (String.append_eq_empty_iff.mp empty).2
    exact absurd last (by decide)

theorem reason?_byCondition (condition : Condition) :
    (raw.byCondition condition).reason? = some raw.description := by
  cases condition <;> rfl

theorem reason?_byKind :
    (raw.byKind endpoint).reason? =
      some (if raw.kind.variant = .connection then raw.lossReason endpoint
        else raw.description) := by
  unfold byKind
  cases raw.kind <;> rfl

theorem cause?_byCondition (condition : Condition) :
    (raw.byCondition condition).cause? =
      if condition.variant.keepsCause then some (.raw raw) else none := by
  cases condition <;> rfl

theorem cause?_byKind :
    (raw.byKind endpoint).cause? =
      if raw.kind.variant.keepsCause then some (.raw raw) else none := by
  unfold byKind
  cases raw.kind <;> rfl

theorem byKind_of_transport (transport : raw.kind.variant = .transport) :
    raw.byKind endpoint = .transport raw.description raw.condition raw.retryable true := by
  unfold byKind
  cases kind : raw.kind with
  | protocol => rfl
  | _ =>
    rw [kind] at transport
    cases transport

/-- No known condition stands for a lost connection or for what is left to the transport. -/
theorem Condition.variant_ne (condition : Condition) :
    condition.variant ≠ .connection ∧ condition.variant ≠ .transport := by
  cases condition <;> decide

/-- What a raw failure is understood to mean under an endpoint. -/
structure Reading (raw : RawFailure) (endpoint : Option String) (meaning : Fault) : Prop where
  -- A known condition says all, whatever the kind, the opinion of the transport and the endpoint
  -- are.
  known : ∀ condition : Condition, raw.condition = some condition.symbol →
    meaning.variant = condition.variant ∧
      ∀ opinion, meaning.flags = condition.variant.flags opinion
  -- Any other condition says nothing, and the kind decides.
  unknown : (∀ condition : Condition, raw.condition ≠ some condition.symbol) →
    meaning.variant = raw.kind.variant ∧ meaning.flags = raw.kind.variant.flags raw.retryable
  -- What is left to the transport keeps its opinion and the condition.
  carried : meaning.variant = .transport →
    meaning = .transport raw.description raw.condition raw.retryable true
  -- The wording is the description, to which only a lost connection adds its endpoint.
  worded : ∃ addition, meaning.reason? = some (raw.description ++ addition) ∧
    (addition = "" ↔ ¬ (meaning.variant = .connection ∧ endpoint.isSome = true))
  -- The failure itself stays behind some meanings, and nothing stands behind the others.
  caused : meaning.cause? = if meaning.variant.keepsCause then some (.raw raw) else none

theorem reading_byCondition {condition : Condition}
    (given : raw.condition = some condition.symbol) :
    raw.Reading endpoint (raw.byCondition condition) := by
  have variant := raw.variant_byCondition condition
  obtain ⟨otherThanLoss, otherThanTransport⟩ := condition.variant_ne
  rw [← variant] at otherThanLoss otherThanTransport
  refine ⟨?_, ?_, ?_, ?_, ?_⟩
  · intro other same
    -- The symbols tell the known conditions apart.
    cases (known?_eq_some_iff.mpr given).symm.trans (known?_eq_some_iff.mpr same)
    exact ⟨variant, raw.flags_byCondition condition⟩
  · intro unknown
    exact absurd given (unknown condition)
  · intro transport
    exact absurd transport otherThanTransport
  · refine ⟨"", ?_, iff_of_true rfl fun loss => otherThanLoss loss.1⟩
    rw [reason?_byCondition, String.append_empty]
  · rw [variant]
    exact raw.cause?_byCondition condition

theorem reading_byKind (unknown : ∀ condition : Condition, raw.condition ≠ some condition.symbol) :
    raw.Reading endpoint (raw.byKind endpoint) := by
  have variant := raw.variant_byKind endpoint
  refine ⟨?_, ?_, ?_, ?_, ?_⟩
  · intro condition given
    exact absurd given (unknown condition)
  · intro _
    exact ⟨variant, raw.flags_byKind endpoint⟩
  · intro transport
    exact raw.byKind_of_transport endpoint (variant.symm.trans transport)
  · rw [variant, reason?_byKind]
    by_cases loss : raw.kind.variant = .connection
    · refine ⟨remark endpoint, ?_, ?_⟩
      · rw [if_pos loss, lossReason_eq]
      · rw [remark_eq_empty_iff, ← Bool.not_eq_true]
        exact not_congr (iff_and_self.mpr fun _ => loss)
    · refine ⟨"", ?_, iff_of_true rfl fun both => loss both.1⟩
      rw [if_neg loss, String.append_empty]
  · rw [variant]
    exact raw.cause?_byKind endpoint

/-- A raw failure is read by its condition first and by its kind second. -/
theorem reading_classify : raw.Reading endpoint (raw.classify endpoint) := by
  unfold classify
  cases known : raw.known? with
  | some condition => exact raw.reading_byCondition endpoint (known?_eq_some_iff.mp known)
  | none => exact raw.reading_byKind endpoint (known?_eq_none_iff.mp known)

end RawFailure

namespace Fault

/-- No fault is raw once it has its meaning. -/
theorem isRaw_classify (endpoint : Option String) (fault : Fault) :
    (fault.classify endpoint).isRaw = false := by
  cases fault with
  | raw failure => exact failure.isRaw_classify endpoint
  | _ => rfl

theorem classify_of_not_isRaw {fault : Fault} (meaningful : fault.isRaw = false)
    (endpoint : Option String) : fault.classify endpoint = fault := by
  cases fault with
  | raw failure => cases meaningful
  | _ => rfl

/-- What is to be said of the meaning that a fault gets under an endpoint. -/
structure Understood (endpoint : Option String) (fault meaning : Fault) : Prop where
  meaningful : meaning.isRaw = false
  -- No other endpoint changes a meaning that is given already.
  settled : ∀ other, meaning.classify other = meaning
  untouched : fault.isRaw = false → meaning = fault ∧ meaning.causes = fault.causes
  read : ∀ raw, fault = .raw raw → raw.Reading endpoint meaning

/-- Every fault has a meaning once it is classified. A raw one is read by its condition and its
kind, and every other one is left alone with all that stands behind it. -/
theorem understood_classify (endpoint : Option String) (fault : Fault) :
    fault.Understood endpoint (fault.classify endpoint) where
  meaningful := isRaw_classify endpoint fault
  settled := classify_of_not_isRaw (isRaw_classify endpoint fault)
  untouched := by
    intro meaningful
    rw [classify_of_not_isRaw meaningful endpoint]
    exact ⟨rfl, rfl⟩
  read := by
    rintro raw rfl
    exact raw.reading_classify endpoint

example (endpoint : Option String) :
    (Fault.raw ⟨.linkDetached, some "com.microsoft:server-busy", "busy", true⟩).classify endpoint =
      .serverBusy "busy" := rfl

end Fault
end BusLink
