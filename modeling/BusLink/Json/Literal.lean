import BusLink.Number.Binary64

set_option autoImplicit false

namespace BusLink.Json

/-- A number as it is read: an integer of a word, or a double. -/
inductive Number where
  | integer (value : Int)
  | real (value : Binary64)
deriving DecidableEq, Repr

/-- The parts of a number literal, digits as characters. -/
structure Literal where
  negative : Bool
  whole : List Char
  fraction : Option (List Char)
  -- Whether the exponent is negative, and its digits.
  exponent : Option (Bool × List Char)
deriving DecidableEq, Repr

namespace Literal

def digitRun? (characters : List Char) : Option (List Char × List Char) :=
  match characters.takeWhile Char.isDigit with
  | [] => none
  | digits => some (digits, characters.dropWhile Char.isDigit)

def whole? : List Char → Option (List Char × List Char)
  | '0' :: rest => some (['0'], rest)
  | characters => digitRun? characters

def fraction? : List Char → Option (Option (List Char) × List Char)
  | '.' :: rest => (digitRun? rest).map fun (digits, rest) => (some digits, rest)
  | rest => some (none, rest)

def power? : List Char → Option ((Bool × List Char) × List Char)
  | '+' :: rest => (digitRun? rest).map fun (digits, rest) => ((false, digits), rest)
  | '-' :: rest => (digitRun? rest).map fun (digits, rest) => ((true, digits), rest)
  | rest => (digitRun? rest).map fun (digits, rest) => ((false, digits), rest)

def exponent? : List Char → Option (Option (Bool × List Char) × List Char)
  | 'e' :: rest => (power? rest).map fun (power, rest) => (some power, rest)
  | 'E' :: rest => (power? rest).map fun (power, rest) => (some power, rest)
  | rest => some (none, rest)

def unsigned? (negative : Bool) (characters : List Char) : Option (Literal × List Char) := do
  let (whole, rest) ← whole? characters
  let (fraction, rest) ← fraction? rest
  let (exponent, rest) ← exponent? rest
  return (⟨negative, whole, fraction, exponent⟩, rest)

/-- The literal at the start of a text, and what follows it. -/
def read? : List Char → Option (Literal × List Char)
  | '-' :: rest => unsigned? true rest
  | characters => unsigned? false characters

def wordMax : Nat := Nat.pow 2 64 - 1

def digit (character : Char) : Nat :=
  character.toNat - 48

/-- Reads digits onto a significand while it fits a word; the digits left over come back. -/
def gather : Nat → List Char → Nat × List Char
  | significand, [] => (significand, [])
  | significand, character :: rest =>
    if wordMax < 10 * significand + digit character then (significand, character :: rest)
    else gather (10 * significand + digit character) rest

def exponentSize? (digits : List Char) : Option Nat :=
  digits.foldl
    (fun size character => do
      let size := 10 * (← size) + digit character
      if size < Nat.pow 2 31 then some size else none)
    (some 0)

def tenPower (power : Nat) : Nat :=
  Binary64.roundUnits (Nat.pow 10 power * Binary64.one) 1

/-- A magnitude in units times a power of ten, by one multiplication or division for powers up to
308; a smaller power is reached by dividing by 10^308 first. An infinite product is refused. -/
def scaled? (negative : Bool) : Nat → Nat → Int → Option Binary64
  | 0, _, _ => some (.finite negative 0)
  | rounds + 1, units, exponent =>
    if exponent.natAbs ≤ 308 then
      let power := tenPower exponent.natAbs
      let result :=
        if 0 ≤ exponent then Binary64.ofUnits negative (units * power) Binary64.one
        else Binary64.ofUnits negative (units * Binary64.one) power
      if result.isFinite then some result else none
    else if units = 0 then some (.finite negative 0)
    else if 0 ≤ exponent then none
    else scaled? negative rounds
      (Binary64.roundUnits (units * Binary64.one) (tenPower 308)) (exponent + 308)

def real? (negative : Bool) (significand : Nat) (exponent : Int) : Option Binary64 :=
  scaled? negative (exponent.natAbs + 1) (Binary64.roundUnits (significand * Binary64.one) 1)
    exponent

/-- The value of a literal; `none` if it lies beyond the doubles. Digits are gathered while they fit
a word, and the significand is multiplied or divided once by a power of ten, which can miss the
nearest double by a unit in the last place. -/
def number? (literal : Literal) : Option Number :=
  let (head, overrun) := gather 0 literal.whole
  match literal.fraction, literal.exponent, overrun with
  | none, none, [] =>
    if literal.negative then
      if head = 0 ∨ Nat.pow 2 63 < head then
        (real? true head 0).map Number.real
      else some (.integer (-(head : Int)))
    else some (.integer head)
  | fraction, exponent, overrun =>
    let digits := fraction.getD []
    let (significand, unused) := gather head digits
    let start := (overrun.length : Int) - (digits.length - unused.length : Nat)
    match exponent with
    | none => (real? literal.negative significand start).map Number.real
    | some (below, digits) =>
      match exponentSize? digits with
      | none =>
        if significand ≠ 0 ∧ !below then none
        else some (.real (.finite literal.negative 0))
      | some size =>
        let power := if below then start - size else start + size
        (real? literal.negative significand power).map Number.real

end Literal
end BusLink.Json
