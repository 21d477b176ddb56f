/-! The proleptic Gregorian calendar: days counted from the first of January 1970, and dates. -/
namespace TieredLedger

structure Date where
  year : Int
  month : Nat
  day : Nat
deriving DecidableEq, Repr

namespace Date

def isLeapYear (year : Int) : Bool := year % 4 = 0 && (year % 100 ≠ 0 || year % 400 = 0)

def daysInMonth (year : Int) (month : Nat) : Nat :=
  if month = 2 then if isLeapYear year then 29 else 28
  else if month = 4 ∨ month = 6 ∨ month = 9 ∨ month = 11 then 30
  else 31

def isValid (d : Date) : Bool :=
  1 ≤ d.month && d.month ≤ 12 && 1 ≤ d.day && d.day ≤ daysInMonth d.year d.month

def daysInEra : Nat := 146097

def epochOffset : Int := 719468

def daysBeforeMonth (month : Nat) : Nat := (153 * month + 2) / 5

def daysBeforeYear (year : Nat) : Nat := 365 * year + year / 4 - year / 100

def yearOfDay (day : Nat) : Nat := (day - day / 1460 + day / 36524 - day / 146096) / 365

/-- The day number of a date. A year is taken to begin in March, so that a leap day is its last. -/
def toDays (d : Date) : Int :=
  let year := if d.month ≤ 2 then d.year - 1 else d.year
  let month := if d.month ≤ 2 then d.month + 9 else d.month - 3
  let yearOfEra := (year % 400).toNat
  let dayOfEra := daysBeforeYear yearOfEra + daysBeforeMonth month + (d.day - 1)
  year / 400 * daysInEra + dayOfEra - epochOffset

def ofDays (days : Int) : Date :=
  let shifted := days + epochOffset
  let dayOfEra := (shifted % daysInEra).toNat
  let yearOfEra := yearOfDay dayOfEra
  let dayOfYear := dayOfEra - daysBeforeYear yearOfEra
  let month := (5 * dayOfYear + 2) / 153
  let year := shifted / daysInEra * 400 + yearOfEra
  { year := if month ≥ 10 then year + 1 else year
    month := if month ≥ 10 then month - 9 else month + 3
    day := dayOfYear - daysBeforeMonth month + 1 }

end Date

end TieredLedger
