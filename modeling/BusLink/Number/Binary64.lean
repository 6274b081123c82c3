set_option autoImplicit false

namespace BusLink

/-- A double: not a number, an infinity, or a signed count of units of 2^-1074. -/
inductive Binary64 where
  | nan
  | infinite (negative : Bool)
  | finite (negative : Bool) (units : Nat)
deriving DecidableEq, Repr, Inhabited

def roundHalfEven (numerator denominator : Nat) : Nat :=
  let floor := numerator / denominator
  let rest := 2 * (numerator % denominator)
  if rest < denominator then floor
  else if denominator < rest then floor + 1
  else floor + floor % 2

namespace Binary64

def overflow : Nat := Nat.pow 2 2098

def one : Nat := Nat.pow 2 1074

def zero : Binary64 := .finite false 0

/-- A magnitude in units, given as a quotient, rounded to fifty-three significant bits. -/
def roundUnits (numerator denominator : Nat) : Nat :=
  let spacing := Nat.pow 2 ((numerator / denominator).log2 - 52)
  roundHalfEven numerator (denominator * spacing) * spacing

def ofUnits (negative : Bool) (numerator denominator : Nat) : Binary64 :=
  let units := roundUnits numerator denominator
  if units < overflow then .finite negative units else .infinite negative

def ofRatio (negative : Bool) (numerator denominator : Nat) : Binary64 :=
  ofUnits negative (numerator * one) denominator

def ofNat (value : Nat) : Binary64 :=
  ofRatio false value 1

/-- The double nearest to `digits * 10 ^ exponent`. From ten to the 310th on every number is
infinite, and below ten to the minus 330th every number rounds to zero. -/
def ofDecimal (negative : Bool) (digits : Nat) (exponent : Int) : Binary64 :=
  let places := (Nat.toDigits 10 digits).length
  if digits = 0 then .finite negative 0
  else if 310 < exponent + places then .infinite negative
  else if exponent + places < -330 then .finite negative 0
  else if 0 ≤ exponent then ofRatio negative (digits * Nat.pow 10 exponent.toNat) 1
  else ofRatio negative digits (Nat.pow 10 (-exponent).toNat)

def ofBits (word : UInt64) : Binary64 :=
  let negative := word.toNat / Nat.pow 2 63 = 1
  let exponent := word.toNat / Nat.pow 2 52 % 2048
  let fraction := word.toNat % Nat.pow 2 52
  if exponent = 2047 then
    if fraction = 0 then .infinite negative else .nan
  else if exponent = 0 then .finite negative fraction
  else .finite negative ((Nat.pow 2 52 + fraction) * Nat.pow 2 (exponent - 1))

def magnitudeBits (units : Nat) : Nat :=
  if units < Nat.pow 2 53 then units
  else
    let shift := units.log2 - 52
    shift * Nat.pow 2 52 + units / Nat.pow 2 shift

/-- The word that encodes a double, one word standing for every NaN. -/
def toBits : Binary64 → UInt64
  | .nan => 0x7ff8000000000000
  | .infinite negative => if negative then 0xfff0000000000000 else 0x7ff0000000000000
  | .finite negative units =>
    UInt64.ofNat ((if negative then Nat.pow 2 63 else 0) + magnitudeBits units)

def isFinite : Binary64 → Bool
  | .finite _ _ => true
  | _ => false

def isBelowZero : Binary64 → Bool
  | .nan => false
  | .infinite negative => negative
  | .finite negative units => negative && units != 0

def signed (negative : Bool) (units : Nat) : Int :=
  if negative then -(units : Int) else units

/-- The order of doubles by value; NaN is in no relation to anything. -/
def le : Binary64 → Binary64 → Bool
  | .nan, _ => false
  | _, .nan => false
  | .infinite true, _ => true
  | _, .infinite false => true
  | .infinite false, _ => false
  | _, .infinite true => false
  | .finite negative units, .finite otherNegative otherUnits =>
    signed negative units ≤ signed otherNegative otherUnits

/-- Equality of doubles by value: the two zeros are equal, NaN is unequal to itself. -/
def sameValue (left right : Binary64) : Bool :=
  left.le right && right.le left

/-- The value itself if it is above zero, else zero; NaN counts as zero. -/
def orZero : Binary64 → Binary64
  | .infinite false => .infinite false
  | .finite false units => .finite false units
  | _ => zero

/-- The value moved into the range from zero to an upper end that is not below zero; NaN goes to
zero. -/
def clampTo (value upper : Binary64) : Binary64 :=
  if value.orZero.le upper then value.orZero else upper

/-- The value times a power of two. A power from 2^1024 on is infinite, and an infinite multiple of
zero is NaN; every other product is exact until it overflows. -/
def timesPower (value : Binary64) (power : Nat) : Binary64 :=
  match value with
  | .nan => .nan
  | .infinite negative => .infinite negative
  | .finite negative units =>
    if 1024 ≤ power then
      if units = 0 then .nan else .infinite negative
    else if units * Nat.pow 2 power < overflow then .finite negative (units * Nat.pow 2 power)
    else .infinite negative

/-- A number of seconds as whole nanoseconds, halves to even; `none` for a number below zero, of
2^64 or more, or not finite. -/
def nanoseconds? : Binary64 → Option Nat
  | .finite negative units =>
    if (negative && units != 0) || Nat.pow 2 64 * one ≤ units then none
    else some (roundHalfEven (units * 1000000000) one)
  | _ => none

theorem orZero_ne_nan (value : Binary64) : value.orZero ≠ .nan := by
  cases value with
  | nan => simp [orZero, zero]
  | infinite negative => cases negative <;> simp [orZero, zero]
  | finite negative units => cases negative <;> simp [orZero, zero]

end Binary64
end BusLink
