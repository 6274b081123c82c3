import BusLink.Handler.Basic

set_option autoImplicit false

namespace BusLink

theorem bind_eq_ok_iff {ε α β : Type} {first : Except ε α} {next : α → Except ε β} {value : β} :
    (first >>= next) = .ok value ↔ ∃ found, first = .ok found ∧ next found = .ok value := by
  cases first <;> simp [bind, Except.bind]

theorem bind_eq_error_iff {ε α β : Type} {first : Except ε α} {next : α → Except ε β} {error : ε} :
    (first >>= next) = .error error ↔
      first = .error error ∨ ∃ found, first = .ok found ∧ next found = .error error := by
  cases first <;> simp [bind, Except.bind]

namespace Binary64

/-- Finite and not below zero. -/
def Sensible (value : Binary64) : Prop :=
  value.isFinite = true ∧ value.isBelowZero = false

theorem orZero_le_orZero (value : Binary64) : value.orZero.le value.orZero = true := by
  cases value with
  | nan => rfl
  | infinite negative => cases negative <;> rfl
  | finite negative units => cases negative <;> simp [orZero, zero, le]

/-- Only the sign of a zero is lost on a bound that is sensible. -/
theorem le_orZero {bound : Binary64} (sensible : bound.Sensible) (value : Binary64) :
    value.le bound.orZero = value.le bound := by
  obtain ⟨isFinite, notBelow⟩ := sensible
  cases bound with
  | nan => cases isFinite
  | infinite negative => cases isFinite
  | finite negative units =>
    cases negative with
    | false => rfl
    | true =>
      have empty : units = 0 := by simpa [isBelowZero] using notBelow
      subst empty
      cases value with
      | nan => rfl
      | infinite below => cases below <;> rfl
      | finite below magnitude => simp [orZero, zero, le, signed]

theorem clampTo_le {value upper : Binary64} (proper : upper.le upper = true) :
    (value.clampTo upper).le upper = true := by
  unfold clampTo
  split
  · assumption
  · exact proper

theorem clampTo_orZero_le {bound : Binary64} (sensible : bound.Sensible) (value : Binary64) :
    (value.clampTo bound.orZero).le bound = true := by
  rw [← le_orZero sensible]
  exact clampTo_le (orZero_le_orZero bound)

end Binary64

theorem Retry.Policy.admits_of_sensible {policy : Policy} (sensible : policy.longest.Sensible)
    (retry : UInt32) : policy.admits retry = true :=
  Binary64.clampTo_orZero_le sensible _

namespace Configuration

/-- Both waits are sensible. -/
structure Validated (configuration : Configuration) : Prop where
  unit : configuration.waitUnit.Sensible
  longest : configuration.longestWait.Sensible

theorem checkSeconds_eq_ok_iff {name : String} {value : Binary64} :
    checkSeconds name value = .ok () ↔ value.Sensible := by
  unfold checkSeconds Binary64.Sensible
  cases value.isFinite <;> cases value.isBelowZero <;> simp

theorem validated_of_ofOptions {hostname : String} {options : Options}
    {configuration : Configuration} (made : ofOptions hostname options = .ok configuration) :
    configuration.Validated := by
  unfold ofOptions at made
  obtain ⟨_, unit, made⟩ := bind_eq_ok_iff.mp made
  obtain ⟨_, longest, made⟩ := bind_eq_ok_iff.mp made
  dsimp only at made
  split at made
  · cases made
  · cases made
    exact ⟨checkSeconds_eq_ok_iff.mp unit, checkSeconds_eq_ok_iff.mp longest⟩

end Configuration

namespace Handler

variable {τ : Type} {handler : Handler τ}

/-- Built from a blueprint, as every handler is. -/
def Built (handler : Handler τ) : Prop :=
  ∃ (blueprint : Blueprint) (container platform : String),
    blueprint.build container platform handler.outside = .ok handler

theorem Built.validated (built : handler.Built) : handler.configuration.Validated := by
  obtain ⟨blueprint, container, platform, made⟩ := built
  unfold Blueprint.build at made
  simp only at made
  split at made
  · cases made
  · split at made
    · cases made
    · obtain ⟨configuration, configured, assembled⟩ := bind_eq_ok_iff.mp made
      have same := congrArg Handler.configuration (Except.ok.inj assembled)
      exact same ▸ Configuration.validated_of_ofOptions configured

/-- The policy of a handler refuses no wait. -/
theorem Built.admits (built : handler.Built) (retry : UInt32) :
    handler.configuration.retryPolicy.admits retry = true :=
  Retry.Policy.admits_of_sensible built.validated.longest retry

end Handler
end BusLink
