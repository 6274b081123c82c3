import BusLink.Number.Numeral

set_option autoImplicit false

namespace BusLink

/-- A day of the Gregorian calendar, which goes on in both directions without end. -/
structure Date where
  year : Int
  month : Nat
  day : Nat
deriving DecidableEq, Repr

namespace Date

def cycle : Int := 146097

/-- The date so many days after the first of January 1970. -/
def ofDay (day : Int) : Date :=
  -- A cycle starts with a March, so that the day that leap years add is the last of its year.
  let shifted := day + 719468
  let rest := (shifted % cycle).toNat
  let year := (rest - rest / 1460 + rest / 36524 - rest / 146096) / 365
  let ofYear := rest - (365 * year + year / 4 - year / 100)
  let month := (5 * ofYear + 2) / 153
  let inNextYear := 10 ≤ month
  { year := shifted / cycle * 400 + year + (if inNextYear then 1 else 0)
    month := if inNextYear then month - 9 else month + 3
    day := ofYear - (153 * month + 2) / 5 + 1 }

def padded (count value : Nat) : List Char :=
  (Numeral.natural value).leftpad count '0'

/-- A year has four digits, and a sign if it is before the year 0 or has more of them. -/
def yearText (year : Int) : List Char :=
  let digits := padded 4 year.natAbs
  if 0 ≤ year ∧ year ≤ 9999 then digits
  else (if year < 0 then '-' else '+') :: digits

def text (date : Date) : List Char :=
  yearText date.year ++ '-' :: padded 2 date.month ++ '-' :: padded 2 date.day

/-- An instant of the wall clock in seconds since the start of 1970, as its date and time. -/
def instantText (second : Int) : String :=
  let rest := (second % 86400).toNat
  String.ofList
    ((ofDay (second / 86400)).text ++ 'T' :: padded 2 (rest / 3600) ++
      ':' :: padded 2 (rest / 60 % 60) ++ ':' :: padded 2 (rest % 60) ++ ['Z'])

end Date
end BusLink
