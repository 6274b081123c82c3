import BusLink.Number.Numeral

set_option autoImplicit false

namespace BusLink

namespace Clock

def millisecond : Nat := 1000000

/-- The first whole millisecond at or after an instant. -/
def nextTick (instant : Nat) : Nat :=
  (instant + (millisecond - 1)) / millisecond * millisecond

/-- The unit for an amount, as a power of ten nanoseconds, and its symbol. -/
def unitOf (amount : Nat) : Nat × String :=
  if 1000000000 ≤ amount then (9, "s")
  else if 1000000 ≤ amount then (6, "ms")
  else if 1000 ≤ amount then (3, "µs")
  else (0, "ns")

/-- The decimal places of a fraction below one, given as a rest of a power of ten, without the
zeros at the end. -/
def places (rest : Nat) : Nat → List Char
  | 0 => []
  | count + 1 =>
    if rest = 0 then []
    else Char.ofNat (48 + rest / Nat.pow 10 count) :: places (rest % Nat.pow 10 count) count

/-- An amount of time in its largest unit, with the decimal places that it needs. -/
def amountText (amount : Nat) : String :=
  let (power, symbol) := unitOf amount
  let fraction := places (amount % Nat.pow 10 power) power
  let point := if fraction.isEmpty then [] else ['.']
  String.ofList (Numeral.natural (amount / Nat.pow 10 power) ++ point ++ fraction) ++ symbol

theorem le_nextTick (instant : Nat) : instant ≤ nextTick instant := by
  simp only [nextTick, millisecond]
  omega

theorem nextTick_of_dvd (instant : Nat) (whole : millisecond ∣ instant) :
    nextTick instant = instant := by
  obtain ⟨count, rfl⟩ := whole
  simp only [nextTick, millisecond]
  omega

theorem nextTick_mono {first second : Nat} (ordered : first ≤ second) :
    nextTick first ≤ nextTick second :=
  Nat.mul_le_mul_right _ (Nat.div_le_div_right (Nat.add_le_add_right ordered _))

end Clock

/-- The clock of a platform, with its timers. A timer goes off by the first whole millisecond that
does not come too early, and at once if there is nothing to wait for. -/
structure Clock where
  latest : Nat
  -- The instant at which a wait is over that starts at one and takes as long as asked for.
  wake : Nat → Nat → Nat
  now_le_wake : ∀ now delay, now ≤ wake now delay
  wake_zero : ∀ now, wake now 0 = now
  wake_le : ∀ now delay, wake now delay ≤ Clock.nextTick (now + delay)

namespace Clock

attribute [simp] wake_zero

/-- Whether an instant can be told. To reckon with a later one is an overflow. -/
def tells (clock : Clock) (instant : Nat) : Bool := decide (instant ≤ clock.latest)

theorem wake_le_nextTick (clock : Clock) {now delay limit : Nat} (fits : now + delay ≤ limit) :
    clock.wake now delay ≤ nextTick limit :=
  Nat.le_trans (clock.wake_le now delay) (nextTick_mono fits)

end Clock
end BusLink
