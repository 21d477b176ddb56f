/-! JSON values and number literals. Members keep their order and may repeat a key. -/
namespace TieredLedger.Json

inductive Numeral
  /-- Digits alone. -/
  | natural (n : Nat)
  /-- Any other literal: its sign, the digits before the point, the digits after it, and the power of ten. -/
  | scientific (negative : Bool) (whole : Nat) (fraction : List Nat) (exponent : Int)
deriving DecidableEq, Repr

namespace Numeral

/-- Takes up digits as long as the number they make fits in 64 bits; gives the number and how many digits were taken. -/
def takeDigits : (significand taken : Nat) → List Nat → Nat × Nat
  | significand, taken, [] => (significand, taken)
  | significand, taken, d :: rest =>
    if significand * 10 + d < UInt64.size then takeDigits (significand * 10 + d) (taken + 1) rest
    else (significand, taken)

def digits (n : Nat) : List Nat := (Nat.toDigits 10 n).map fun c => c.toNat - 48

def powerOfTen (n : Nat) : Float := Float.ofScientific 1 false n

def maxPower : Nat := 308

def shrink (f : Float) (n : Nat) : Float :=
  if n ≤ maxPower then f / powerOfTen n
  else if f == 0 then f
  else shrink (f / powerOfTen maxPower) (n - maxPower)
termination_by n
decreasing_by simp only [maxPower] at *; omega

def scale? (significand : Nat) (exponent : Int) : Option Float :=
  let f := (UInt64.ofNat significand).toFloat
  match exponent with
  | .ofNat n =>
    if n ≤ maxPower then
      let scaled := f * powerOfTen n
      if scaled.isInf then none else some scaled
    else if f == 0 then some f
    else none
  | .negSucc n => some (shrink f (n + 1))

def maxExponent : Nat := 2147483647

/-- The size of a literal as a floating-point number. Digits beyond 64 bits are dropped, each one before the point
counting as a power of ten. -/
def magnitude? (whole : Nat) (fraction : List Nat) (exponent : Int) : Option Float :=
  let wholeDigits := digits whole
  let (significand, taken) := takeDigits 0 0 wholeDigits
  let dropped := wholeDigits.length - taken
  let (significand, places) := takeDigits significand 0 fraction
  if exponent.natAbs ≤ maxExponent then scale? significand ((dropped : Int) - places + exponent)
  else if significand = 0 ∨ exponent < 0 then some 0
  else none

def toFloat? : Numeral → Option Float
  | natural n => magnitude? n [] 0
  | scientific negative whole fraction exponent =>
    (magnitude? whole fraction exponent).map fun f => if negative then -f else f

/-- The natural number that a literal stands for; a literal with a sign, a point or a power of ten stands for none. -/
def toNat? : Numeral → Option Nat
  | natural n => some n
  | scientific .. => none

end Numeral

end TieredLedger.Json

namespace TieredLedger

/-- A JSON value. The text of a string is missing when the literal holds half of a surrogate pair: such a string may
be passed over, but not read. -/
inductive Json
  | null
  | bool (b : Bool)
  | number (n : Json.Numeral)
  | string (text : Option String)
  | array (items : List Json)
  | object (members : List (Option String × Json))
deriving Repr, Inhabited

namespace Json

def text (s : String) : Json := string (some s)

def natural (n : Nat) : Json := number (.natural n)

def word (n : UInt64) : Json := natural n.toNat

def option {α : Type} (write : α → Json) : Option α → Json
  | none => null
  | some a => write a

def record (fields : List (String × Json)) : Json := object (fields.map fun (name, value) => (some name, value))

def text? : Json → Option String
  | string s => s
  | _ => none

def bool? : Json → Option Bool
  | bool b => some b
  | _ => none

def natural? : Json → Option Nat
  | number n => n.toNat?
  | _ => none

def below? (bound : Nat) (j : Json) : Option Nat := j.natural?.filter fun n => n < bound

def word? (j : Json) : Option UInt64 := (j.below? UInt64.size).map UInt64.ofNat

def float? : Json → Option Float
  | number n => n.toFloat?
  | _ => none

def array? {α : Type} (read : Json → Option α) : Json → Option (List α)
  | array items => items.mapM read
  | _ => none

/-- Reads the name of a choice, which stands alone or as the key of an object that holds null. -/
def choice? : Json → Option String
  | string s => s
  | object [(name, null)] => name
  | _ => none

def map? {α : Type} (read : Json → Option α) : Json → Option (List (String × α))
  | object members => members.mapM fun (key, value) => do return (← key, ← read value)
  | _ => none

/-- The value of the only member with a key: missing if there is none, refused if there are several. -/
def member? (members : List (String × Json)) (key : String) : Option (Option Json) :=
  match members.filter fun (name, _) => name == key with
  | [] => some none
  | [(_, value)] => some (some value)
  | _ => none

/-- The values of a record's fields in the order of their names. A record is an object, whose other members are
passed over, or an array of exactly its fields. -/
def record? (names : List String) : Json → Option (List (Option Json))
  | object members => do
    let members ← members.mapM fun (key, value) => key.map fun name => (name, value)
    names.mapM (member? members)
  | array items => if items.length = names.length then some (items.map some) else none
  | _ => none

def required {α : Type} (read : Json → Option α) (field : Option Json) : Option α := field.bind read

def optional {α : Type} (read : Json → Option α) : Option Json → Option (Option α)
  | none => some none
  | some null => some none
  | some value => (read value).map some

end Json

end TieredLedger
