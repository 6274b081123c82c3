import BusLink.Number.Numeral

set_option autoImplicit false

namespace BusLink

structure Decimal where
  digits : Nat
  exponent : Int
deriving DecidableEq, Repr

inductive Tie where
  | toEven
  | up
deriving DecidableEq, Repr

namespace Decimal

/-- The distance, in quarters of a unit, from a magnitude up to the end of the numbers that round
to it. -/
def upperGap (units : Nat) : Nat :=
  2 * Nat.pow 2 (units.log2 - 52)

/-- The same distance downwards, which is half as long at a power of two. -/
def lowerGap (units : Nat) : Nat :=
  let spacing := Nat.pow 2 (units.log2 - 52)
  if 1 < spacing ∧ units = Nat.pow 2 52 * spacing then spacing else 2 * spacing

/-- Whether the ends of the range round to the magnitude too: they do if its significand is even. -/
def keepsEnds (units : Nat) : Bool :=
  units / Nat.pow 2 (units.log2 - 52) % 2 = 0

/-- The nearest multiple of a power of ten that rounds to the magnitude, if any does. -/
def atPlace? (tie : Tie) (units : Nat) (exponent : Int) : Option Decimal :=
  let up := Nat.pow 10 (-exponent).toNat
  let step := 4 * Binary64.one * Nat.pow 10 exponent.toNat
  let exact := 4 * units * up
  let low := exact - lowerGap units * up
  let high := exact + upperGap units * up
  let inRange (multiple : Nat) : Bool :=
    if keepsEnds units then low ≤ multiple * step && multiple * step ≤ high
    else low < multiple * step && multiple * step < high
  let floor := exact / step
  let rest := 2 * (exact % step)
  match inRange floor, inRange (floor + 1) with
  | false, false => none
  | true, false => some ⟨floor, exponent⟩
  | false, true => some ⟨floor + 1, exponent⟩
  | true, true =>
    if rest < step then some ⟨floor, exponent⟩
    else if step < rest then some ⟨floor + 1, exponent⟩
    else match tie with
      | .up => some ⟨floor + 1, exponent⟩
      | .toEven => some ⟨floor + floor % 2, exponent⟩

/-- The shortest decimal that rounds to a magnitude in units: the first hit from the largest power
of ten downwards. -/
def shortest (tie : Tie) (units : Nat) : Decimal :=
  if units = 0 then ⟨0, 0⟩
  else ((List.range 640).findSome? fun (index : Nat) =>
    atPlace? tie units (309 - (index : Int))).getD ⟨0, 0⟩

def positional (decimal : Decimal) : List Char :=
  let text := Numeral.natural decimal.digits
  let places := (-decimal.exponent).toNat
  if places = 0 then text ++ List.replicate decimal.exponent.toNat '0'
  else if places < text.length then
    text.take (text.length - places) ++ '.' :: text.drop (text.length - places)
  else '0' :: '.' :: List.replicate (places - text.length) '0' ++ text

/-- The text with a point always: positional while the point lies at most sixteen places right and
at most four places left of the first digit, and with an exponent otherwise. -/
def scientific (decimal : Decimal) : List Char :=
  let text := Numeral.natural decimal.digits
  let point := (text.length : Int) + decimal.exponent
  if decimal.digits = 0 then ['0', '.', '0']
  else if 0 ≤ decimal.exponent ∧ point ≤ 16 then decimal.positional ++ ['.', '0']
  else if -5 < point ∧ point ≤ 16 then decimal.positional
  else
    let power := Numeral.integer (point - 1)
    if text.length = 1 then text ++ 'e' :: power
    else text.take 1 ++ '.' :: text.drop 1 ++ 'e' :: power

end Decimal

namespace Binary64

def text : Binary64 → String
  | .nan => "NaN"
  | .infinite negative => if negative then "-inf" else "inf"
  | .finite negative units =>
    String.ofList ((if negative then ['-'] else []) ++ (Decimal.shortest .up units).positional)

end Binary64
end BusLink
