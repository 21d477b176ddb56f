import TieredLedger.Text.Blank
import TieredLedger.Text.Number
import TieredLedger.Time.Instant

/-! Timestamps: instants as text, by RFC 3339. Writing uses one form; reading is more lenient. -/
namespace TieredLedger.Timestamp

def padded (width n : Nat) : String :=
  let s := toString n
  String.ofList (List.replicate (width - s.length) '0') ++ s

/-- A year: four digits, or a sign and at least four digits when it lies outside the years 0 to 9999. -/
def yearText (year : Int) : String :=
  if 0 ≤ year ∧ year ≤ 9999 then padded 4 year.toNat
  else (if year < 0 then "-" else "+") ++ padded 4 year.natAbs

def fractionText (nanos : Nat) : String :=
  if nanos = 0 then ""
  else if nanos % 1000000 = 0 then "." ++ padded 3 (nanos / 1000000)
  else if nanos % 1000 = 0 then "." ++ padded 6 (nanos / 1000)
  else "." ++ padded 9 nanos

def text (t : Instant) : String :=
  let date := Date.ofDays (t.seconds / secondsPerDay)
  let second := t.secondOfDay.toNat
  let leap := t.nanos / nanosPerSecond
  yearText date.year ++ "-" ++ padded 2 date.month ++ "-" ++ padded 2 date.day ++ "T"
    ++ padded 2 (second / 3600) ++ ":" ++ padded 2 (second / 60 % 60) ++ ":" ++ padded 2 (second % 60 + leap)
    ++ fractionText (t.nanos % nanosPerSecond) ++ "Z"

def digits (width : Nat) (cs : List Char) : Option (Nat × List Char) :=
  let ds := (cs.take width).takeWhile Char.isDigit
  if ds.isEmpty then none else some (Text.ofDigits ds, cs.drop ds.length)

def field (low high : Nat) (cs : List Char) : Option (Nat × List Char) := do
  let (n, cs) ← digits 2 (Text.trimFront cs)
  if low ≤ n ∧ n ≤ high then some (n, cs) else none

def year (cs : List Char) : Option (Int × List Char) :=
  match Text.trimFront cs with
  | '+' :: cs => (digits cs.length cs).map fun (n, cs) => (Int.ofNat n, cs)
  | '-' :: cs => (digits cs.length cs).map fun (n, cs) => (- Int.ofNat n, cs)
  | cs => (digits 4 cs).map fun (n, cs) => (Int.ofNat n, cs)

def mark (c : Char) (cs : List Char) : Option (List Char) :=
  match Text.trimFront cs with
  | d :: cs => if d = c then some cs else none
  | [] => none

/-- Reads a fraction of a second, if there is one, in nanoseconds. Digits past the ninth are dropped. -/
def fraction : List Char → Option (Nat × List Char)
  | '.' :: cs => do
    let ds := cs.takeWhile Char.isDigit
    if ds.isEmpty then none
    let kept := ds.take 9
    return (Text.ofDigits kept * Nat.pow 10 (9 - kept.length), cs.drop ds.length)
  | cs => some (0, cs)

def twoDigits (bound : Nat) : List Char → Option (Nat × List Char)
  | a :: b :: cs =>
    if a.isDigit ∧ b.isDigit ∧ a.toNat - 48 ≤ bound then some (Text.ofDigits [a, b], cs) else none
  | _ => none

def offsetSize (cs : List Char) : Option (Nat × List Char) := do
  let (hours, cs) ← twoDigits 9 cs
  let (minutes, cs) ← twoDigits 5 (cs.dropWhile fun c => c = ':' || Text.isBlank c)
  return (hours * 3600 + minutes * 60, cs)

def offset : List Char → Option (Int × List Char)
  | 'Z' :: cs => some (0, cs)
  | 'z' :: cs => some (0, cs)
  | '+' :: cs => (offsetSize cs).map fun (n, cs) => (Int.ofNat n, cs)
  | '-' :: cs => (offsetSize cs).map fun (n, cs) => (- Int.ofNat n, cs)
  | '−' :: cs => (offsetSize cs).map fun (n, cs) => (- Int.ofNat n, cs)
  | u :: t :: c :: cs => if [u, t, c].map Char.toUpper = ['U', 'T', 'C'] then some (0, cs) else none
  | _ => none

/-- The instant that a date, a time of day and an offset name; the offset stays below a day, and the local date lies
in the range of instants too. -/
def assemble (date : Date) (hour minute second nanos : Nat) (offset : Int) : Option Instant := do
  if !date.isValid ∨ offset.natAbs ≥ secondsPerDay then none
  let leap : Nat := if second = 60 then 1 else 0
  let local' : Int := date.toDays * secondsPerDay + (hour * 3600 + minute * 60 + (second - leap))
  let _ ← Instant.ofParts? local' (nanos + leap * nanosPerSecond)
  Instant.ofParts? (local' - offset) (nanos + leap * nanosPerSecond)

def readDate (cs : List Char) : Option (Date × List Char) := do
  let (year, cs) ← year cs
  let cs ← mark '-' cs
  let (month, cs) ← field 1 12 cs
  let cs ← mark '-' cs
  let (day, cs) ← field 1 31 cs
  return (⟨year, month, day⟩, cs)

def passSeparator : List Char → Option (List Char)
  | 'T' :: cs => some cs
  | 't' :: cs => some cs
  | ' ' :: cs => some cs
  | _ => none

def readChars (cs : List Char) : Option Instant := do
  let (date, cs) ← readDate cs
  let cs ← passSeparator cs
  let (hour, cs) ← field 0 23 cs
  let cs ← mark ':' cs
  let (minute, cs) ← field 0 59 cs
  let cs ← mark ':' cs
  let (second, cs) ← field 0 60 cs
  let (nanos, cs) ← fraction cs
  let (offset, cs) ← offset (Text.trimFront cs)
  if Text.trimFront cs ≠ [] then none
  assemble date hour minute second nanos offset

def read? (s : String) : Option Instant := readChars s.toList

end TieredLedger.Timestamp
