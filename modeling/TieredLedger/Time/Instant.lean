import TieredLedger.Time.Calendar

/-! Points in time, how much time lies between two of them, and spans of time, to the nanosecond. -/
namespace TieredLedger

def nanosPerSecond : Nat := 1000000000

def secondsPerDay : Nat := 86400

/-- A point in time: whole seconds since 1970, not counting leap seconds, and nanoseconds. The nanoseconds go beyond
a second in a leap second, which may follow any second. -/
structure Instant where
  seconds : Int
  nanos : Nat
  first_le : Date.toDays ⟨-262143, 1, 1⟩ * secondsPerDay ≤ seconds := by decide
  lt_last : seconds < Date.toDays ⟨262143, 1, 1⟩ * secondsPerDay := by decide
  nanos_lt : nanos < 2 * nanosPerSecond := by decide
deriving DecidableEq, Repr

namespace Instant

/-- The instant of given seconds and nanoseconds, if there is one. A leap second has to follow the last second of a
minute here. -/
def ofParts? (seconds : Int) (nanos : Nat) : Option Instant :=
  if h : Date.toDays ⟨-262143, 1, 1⟩ * secondsPerDay ≤ seconds ∧ seconds < Date.toDays ⟨262143, 1, 1⟩ * secondsPerDay
      ∧ nanos < 2 * nanosPerSecond ∧ (nanosPerSecond ≤ nanos → seconds % 60 = 59) then
    some ⟨seconds, nanos, h.1, h.2.1, h.2.2.1⟩
  else none

def epoch : Instant := { seconds := 0, nanos := 0 }

instance : Inhabited Instant := ⟨epoch⟩

def before (a b : Instant) : Bool := a.seconds < b.seconds || (a.seconds = b.seconds && a.nanos < b.nanos)

def max (a b : Instant) : Instant := if a.before b then b else a

def nanos? (t : Instant) : Option Int :=
  let n := t.seconds * nanosPerSecond + t.nanos
  if -9223372036854775808 ≤ n ∧ n ≤ 9223372036854775807 then some n else none

def secondOfDay (t : Instant) : Int := t.seconds % secondsPerDay

def leapBetween (start finish : Instant) : Int :=
  if finish.secondOfDay > start.secondOfDay then if nanosPerSecond ≤ start.nanos then 1 else 0
  else if finish.secondOfDay < start.secondOfDay then if nanosPerSecond ≤ finish.nanos then -1 else 0
  else 0

def nanosBetween (start finish : Instant) : Int :=
  (finish.seconds - start.seconds + leapBetween start finish) * nanosPerSecond + (finish.nanos - start.nanos)

def elapsed (since now : Instant) : Nat := (nanosBetween since now).toNat

end Instant

structure Span where
  seconds : UInt64
  nanos : Nat
  nanos_lt : nanos < nanosPerSecond := by decide
deriving DecidableEq, Repr

namespace Span

def ofSeconds (seconds : UInt64) : Span := { seconds, nanos := 0 }

def ofDays (days : UInt32) : Span := ofSeconds (days.toUInt64 * 86400)

def oneDay : Span := ofDays 1

def total (s : Span) : Nat := s.seconds.toNat * nanosPerSecond + s.nanos

def decimalText (whole part places : Nat) : String :=
  let digits := (toString (Nat.pow 10 places + part)).toList.drop 1
  let kept := (digits.reverse.dropWhile (· = '0')).reverse
  if kept.isEmpty then toString whole else toString whole ++ "." ++ String.ofList kept

def text (s : Span) : String :=
  if s.seconds ≠ 0 then decimalText s.seconds.toNat s.nanos 9 ++ "s"
  else if s.nanos ≥ 1000000 then decimalText (s.nanos / 1000000) (s.nanos % 1000000) 6 ++ "ms"
  else if s.nanos ≥ 1000 then decimalText (s.nanos / 1000) (s.nanos % 1000) 3 ++ "µs"
  else toString s.nanos ++ "ns"

end Span

end TieredLedger
