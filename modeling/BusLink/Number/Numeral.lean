import BusLink.Number.Binary64

set_option autoImplicit false

namespace BusLink.Numeral

def natural (value : Nat) : List Char :=
  Nat.toDigits 10 value

def integer (value : Int) : List Char :=
  if value < 0 then '-' :: natural value.natAbs else natural value.natAbs

inductive IntegerFlaw where
  | noText
  | strayCharacter
  | tooLarge
  | tooSmall
deriving DecidableEq, Repr

def IntegerFlaw.message : IntegerFlaw → String
  | .noText => "cannot parse integer from empty string"
  | .strayCharacter => "invalid digit found in string"
  | .tooLarge => "number too large to fit in target type"
  | .tooSmall => "number too small to fit in target type"

def digitValue? (character : Char) : Option Nat :=
  if character.isDigit then some (character.toNat - 48) else none

/-- Reads digits onto a value, with an upper limit and the flaw of passing it. -/
def readDigits (limit : Nat) (passed : IntegerFlaw) : Nat → List Char → Except IntegerFlaw Nat
  | value, [] => .ok value
  | value, character :: rest =>
    match digitValue? character with
    | none => .error .strayCharacter
    | some digit =>
      if limit < 10 * value + digit then .error passed
      else readDigits limit passed (10 * value + digit) rest

/-- Reads a natural number up to a limit; one leading plus sign is allowed, a lone one is not. -/
def readNat (limit : Nat) : List Char → Except IntegerFlaw Nat
  | [] => .error .noText
  | ['+'] => .error .strayCharacter
  | '+' :: digits => readDigits limit .tooLarge 0 digits
  | digits => readDigits limit .tooLarge 0 digits

/-- Reads an integer of sixty-four bits; one leading sign is allowed, a lone one is not. -/
def readInt64 : List Char → Except IntegerFlaw Int
  | [] => .error .noText
  | ['+'] => .error .strayCharacter
  | ['-'] => .error .strayCharacter
  | '+' :: digits => (readDigits (Nat.pow 2 63 - 1) .tooLarge 0 digits).map Int.ofNat
  | '-' :: digits => (readDigits (Nat.pow 2 63) .tooSmall 0 digits).map fun value => -(value : Int)
  | digits => (readDigits (Nat.pow 2 63 - 1) .tooLarge 0 digits).map Int.ofNat

def allDigits? (characters : List Char) : Option Nat :=
  characters.foldl
    (fun value character => do return 10 * (← value) + (← digitValue? character)) (some 0)

/-- What follows the letter of an exponent: an optional sign and at least one digit. -/
def exponent? : List Char → Option Int
  | '+' :: digits => if digits.isEmpty then none else (allDigits? digits).map Int.ofNat
  | '-' :: digits =>
    if digits.isEmpty then none else (allDigits? digits).map fun value => -(value : Int)
  | digits => if digits.isEmpty then none else (allDigits? digits).map Int.ofNat

/-- A number without sign: digits with at most one point, at least one digit in all, and an optional
exponent. -/
def decimal? (negative : Bool) (characters : List Char) : Option Binary64 := do
  let isPower (character : Char) : Bool := character = 'e' || character = 'E'
  let significand := characters.takeWhile (!isPower ·)
  let power ← match characters.dropWhile (!isPower ·) with
    | [] => some 0
    | _ :: power => exponent? power
  let whole := significand.takeWhile (· ≠ '.')
  let fraction := (significand.dropWhile (· ≠ '.')).drop 1
  if whole.isEmpty && fraction.isEmpty then none
  else
    let digits ← allDigits? (whole ++ fraction)
    return Binary64.ofDecimal negative digits (power - fraction.length)

def unsigned? (negative : Bool) (characters : List Char) : Option Binary64 :=
  let word := String.ofList (characters.map Char.toLower)
  if word = "inf" || word = "infinity" then some (.infinite negative)
  else if word = "nan" then some .nan
  else decimal? negative characters

def readBinary64? : List Char → Option Binary64
  | '+' :: rest => unsigned? false rest
  | '-' :: rest => unsigned? true rest
  | rest => unsigned? false rest

end BusLink.Numeral
