/-! Numbers as text: whole ones, and floating-point numbers to one decimal place. -/
namespace TieredLedger.Text

def ofDigits (ds : List Char) : Nat := ds.foldl (fun n c => n * 10 + (c.toNat - 48)) 0

def dropPlus : List Char → List Char
  | '+' :: rest => rest
  | cs => cs

/-- Reads a number below a bound: digits, with a plus sign in front if need be, and nothing else. -/
def number? (bound : Nat) (s : String) : Option Nat :=
  let ds := dropPlus s.toList
  if ds.isEmpty ∨ !ds.all Char.isDigit ∨ bound ≤ ofDigits ds then none else some (ofDigits ds)

def dropSign : List Char → List Char
  | '+' :: rest => rest
  | '-' :: rest => rest
  | cs => cs

def isPower : List Char → Bool
  | [] => true
  | c :: rest => (c = 'e' || c = 'E') && !(dropSign rest).isEmpty && (dropSign rest).all Char.isDigit

/-- Whether a text is a floating-point number: decimal, with a digit on one side of the point at least, or by name. -/
def isFloat (cs : List Char) : Bool :=
  let cs := dropSign cs
  let whole := cs.takeWhile Char.isDigit
  let rest := cs.dropWhile Char.isDigit
  let fraction := if rest.head? = some '.' then (rest.drop 1).takeWhile Char.isDigit else []
  let rest := if rest.head? = some '.' then (rest.drop 1).dropWhile Char.isDigit else rest
  ["inf", "infinity", "nan"].contains (String.ofList (cs.map Char.toLower))
    || ((!whole.isEmpty || !fraction.isEmpty) && isPower rest)

def roundDiv (num den : Nat) : Nat :=
  let quotient := num / den
  let twice := 2 * (num % den)
  if twice < den ∨ (twice = den ∧ quotient % 2 = 0) then quotient else quotient + 1

def tenths (significand : Nat) : (power : Int) → Nat
  | .ofNat n => significand * Nat.pow 2 n * 10
  | .negSucc n => roundDiv (significand * 10) (Nat.pow 2 (n + 1))

def hidden : Nat := 4503599627370496

def onePlace (f : Float) : String :=
  let bits : Nat := f.toBits.toNat
  let sign := if bits >>> 63 = 1 then "-" else ""
  let exponent : Nat := bits >>> 52 % 2048
  let fraction : Nat := bits % hidden
  if exponent = 2047 then if fraction = 0 then sign ++ "inf" else "NaN"
  else
    let n := if exponent = 0 then tenths fraction (-1074) else tenths (hidden + fraction) ((exponent : Int) - 1075)
    sign ++ toString (n / 10) ++ "." ++ toString (n % 10)

end TieredLedger.Text
