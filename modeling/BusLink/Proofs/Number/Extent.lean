import BusLink.Number.Binary64
import Mathlib.Data.ENat.Lattice

set_option autoImplicit false

namespace BusLink

theorem le_roundHalfEven (numerator denominator : Nat) :
    numerator / denominator ≤ roundHalfEven numerator denominator ∧
      roundHalfEven numerator denominator ≤ numerator / denominator + 1 := by
  unfold roundHalfEven
  dsimp only
  split
  · omega
  · split <;> omega

theorem roundHalfEven_mono {first second : Nat} (ordered : first ≤ second) (denominator : Nat) :
    roundHalfEven first denominator ≤ roundHalfEven second denominator := by
  have quotients : first / denominator ≤ second / denominator := Nat.div_le_div_right ordered
  rcases Nat.lt_or_eq_of_le quotients with less | same
  · exact Nat.le_trans (le_roundHalfEven first denominator).2
      (Nat.le_trans less (le_roundHalfEven second denominator).1)
  · -- Of two numbers with one quotient, the one with the greater rest is rounded up first.
    have rests : first % denominator ≤ second % denominator := by
      have left := Nat.div_add_mod first denominator
      have right := Nat.div_add_mod second denominator
      rw [same] at left
      omega
    unfold roundHalfEven
    rw [same]
    grind

namespace Binary64

/-- How far a double reaches above zero; NaN does not. -/
def extent : Binary64 → ℕ∞
  | .infinite false => ⊤
  | .finite false units => units
  | _ => 0

@[simp] theorem extent_orZero (value : Binary64) : value.orZero.extent = value.extent := by
  cases value with
  | nan => rfl
  | infinite negative => cases negative <;> rfl
  | finite negative units => cases negative <;> rfl

@[simp] theorem orZero_orZero (value : Binary64) : value.orZero.orZero = value.orZero := by
  cases value with
  | nan => rfl
  | infinite negative => cases negative <;> rfl
  | finite negative units => cases negative <;> rfl

theorem orZero_eq (value : Binary64) :
    value.orZero = .infinite false ∧ value.extent = ⊤ ∨
      ∃ units : Nat, value.orZero = .finite false units ∧ value.extent = units := by
  cases value with
  | nan => exact .inr ⟨0, rfl, rfl⟩
  | infinite negative =>
    cases negative with
    | false => exact .inl ⟨rfl, rfl⟩
    | true => exact .inr ⟨0, rfl, rfl⟩
  | finite negative units =>
    cases negative with
    | false => exact .inr ⟨units, rfl, rfl⟩
    | true => exact .inr ⟨0, rfl, rfl⟩

/-- Doubles that are not below zero are in the order of their extents. -/
theorem orZero_le_orZero_iff (left right : Binary64) :
    left.orZero.le right.orZero = true ↔ left.extent ≤ right.extent := by
  rcases orZero_eq left with ⟨leftForm, leftExtent⟩ | ⟨leftUnits, leftForm, leftExtent⟩ <;>
    rcases orZero_eq right with ⟨rightForm, rightExtent⟩ | ⟨rightUnits, rightForm, rightExtent⟩ <;>
    simp [leftForm, leftExtent, rightForm, rightExtent, le, signed]

theorem zero_le_orZero (value : Binary64) : zero.le value.orZero = true :=
  (orZero_le_orZero_iff zero value).mpr zero_le

theorem le_zero_or_le_of_le_orZero {value bound : Binary64} (below : value.le bound.orZero = true) :
    value.le .zero = true ∨ value.le bound = true := by
  cases bound with
  | nan => exact .inl below
  | infinite negative =>
    cases negative with
    | false => exact .inr below
    | true => exact .inl below
  | finite negative units =>
    cases negative with
    | false => exact .inr below
    | true => exact .inl below

@[simp] theorem orZero_clampTo (value upper : Binary64) :
    (value.clampTo upper.orZero).orZero = value.clampTo upper.orZero := by
  unfold clampTo
  split <;> exact orZero_orZero _

theorem extent_clampTo (value upper : Binary64) :
    (value.clampTo upper.orZero).extent = min value.extent upper.extent := by
  unfold clampTo
  split
  · rename_i within
    rw [extent_orZero, min_eq_left ((orZero_le_orZero_iff value upper).mp within)]
  · rename_i beyond
    rw [orZero_le_orZero_iff, not_le] at beyond
    rw [extent_orZero, min_eq_right (le_of_lt beyond)]

theorem clampTo_mono {left right : Binary64} (ordered : left.extent ≤ right.extent)
    (upper : Binary64) :
    (left.clampTo upper.orZero).le (right.clampTo upper.orZero) = true := by
  rw [← orZero_clampTo left, ← orZero_clampTo right, orZero_le_orZero_iff, extent_clampTo,
    extent_clampTo]
  exact min_le_min_right _ ordered

theorem overflow_pos : 0 < overflow := by decide +kernel

theorem extent_timesPower_zero (negative : Bool) (power : Nat) :
    ((finite negative 0).timesPower power).extent = 0 := by
  simp only [timesPower, Nat.zero_mul, if_true]
  by_cases far : 1024 ≤ power
  · rw [if_pos far]
    rfl
  · rw [if_neg far, if_pos overflow_pos]
    cases negative <;> rfl

theorem extent_timesPower_of_fits {units power : Nat} (near : power < 1024)
    (fits : units * Nat.pow 2 power < overflow) :
    ((finite false units).timesPower power).extent = (units * Nat.pow 2 power : Nat) := by
  simp only [timesPower]
  rw [if_neg (Nat.not_le.mpr near), if_pos fits]
  rfl

theorem extent_timesPower_of_overflow {units power : Nat} (some : units ≠ 0)
    (beyond : ¬ (power < 1024 ∧ units * Nat.pow 2 power < overflow)) :
    ((finite false units).timesPower power).extent = ⊤ := by
  simp only [timesPower]
  by_cases far : 1024 ≤ power
  · rw [if_pos far, if_neg some]
    rfl
  · rw [if_neg far, if_neg fun fits => beyond ⟨Nat.lt_of_not_le far, fits⟩]
    rfl

/-- The more often a number that is not below zero is doubled, the farther it reaches. -/
theorem extent_timesPower_mono {value : Binary64} (notBelow : zero.le value = true)
    {first second : Nat} (ordered : first ≤ second) :
    (value.timesPower first).extent ≤ (value.timesPower second).extent := by
  cases value with
  | nan => cases notBelow
  | infinite negative =>
    cases negative with
    | false => exact le_refl _
    | true => cases notBelow
  | finite negative units =>
    cases negative with
    | true =>
      have empty : units = 0 := by simpa [zero, le, signed] using notBelow
      rw [empty, extent_timesPower_zero, extent_timesPower_zero]
    | false =>
      by_cases empty : units = 0
      · rw [empty, extent_timesPower_zero, extent_timesPower_zero]
      · by_cases fits : second < 1024 ∧ units * Nat.pow 2 second < overflow
        · have grows : units * Nat.pow 2 first ≤ units * Nat.pow 2 second :=
            Nat.mul_le_mul_left _ (Nat.pow_le_pow_right (by decide) ordered)
          rw [extent_timesPower_of_fits fits.1 fits.2,
            extent_timesPower_of_fits (Nat.lt_of_le_of_lt ordered fits.1)
              (Nat.lt_of_le_of_lt grows fits.2)]
          exact_mod_cast grows
        · rw [extent_timesPower_of_overflow empty fits]
          exact le_top

end Binary64
end BusLink
