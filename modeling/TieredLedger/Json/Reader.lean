import TieredLedger.Bytes
import TieredLedger.Json.Value
import TieredLedger.Text.Number

/-! Reading JSON text, strictly by the grammar of RFC 8259. -/
namespace TieredLedger.Json

def isSpace (c : Char) : Bool := c = ' ' || c = '\t' || c = '\n' || c = '\r'

def skip (cs : List Char) : List Char := cs.dropWhile isSpace

inductive Unit16
  /-- A character written as itself or by its short escape. -/
  | char (c : Char)
  /-- A code unit written in hexadecimal. -/
  | code (n : Nat)
deriving DecidableEq, Repr

def codeUnit? (a b c d : Char) : Option Nat := do
  let a ← Bytes.hexValue? a
  let b ← Bytes.hexValue? b
  let c ← Bytes.hexValue? c
  let d ← Bytes.hexValue? d
  return ((a * 16 + b) * 16 + c) * 16 + d

def shortEscape? : Char → Option Char
  | '"' => some '"'
  | '\\' => some '\\'
  | '/' => some '/'
  | 'b' => some '\x08'
  | 'f' => some '\x0C'
  | 'n' => some '\n'
  | 'r' => some '\r'
  | 't' => some '\t'
  | _ => none

/-- Reads the parts of a string literal up to its closing quote; `found` holds them last first. -/
def readUnits (found : List Unit16) : List Char → Option (List Unit16 × List Char)
  | '"' :: rest => some (found.reverse, rest)
  | '\\' :: 'u' :: a :: b :: c :: d :: rest =>
    match codeUnit? a b c d with
    | some n => readUnits (.code n :: found) rest
    | none => none
  | '\\' :: e :: rest =>
    match shortEscape? e with
    | some c => readUnits (.char c :: found) rest
    | none => none
  | c :: rest => if c.toNat < 0x20 ∨ c = '\\' then none else readUnits (.char c :: found) rest
  | [] => none

/-- The characters of a string literal, unless it holds half of a surrogate pair; `found` holds them last first. -/
def joinUnits (found : List Char) : List Unit16 → Option (List Char)
  | [] => some found.reverse
  | .char c :: rest => joinUnits (c :: found) rest
  | .code n :: rest =>
    if 0xD800 ≤ n ∧ n < 0xDC00 then
      match rest with
      | .code m :: rest =>
        if 0xDC00 ≤ m ∧ m < 0xE000 then
          joinUnits (Char.ofNat (0x10000 + (n - 0xD800) * 0x400 + (m - 0xDC00)) :: found) rest
        else none
      | _ => none
    else if 0xDC00 ≤ n ∧ n < 0xE000 then none
    else joinUnits (Char.ofNat n :: found) rest

def readString (cs : List Char) : Option (Option String × List Char) :=
  (readUnits [] cs).map fun (units, rest) => ((joinUnits [] units).map String.ofList, rest)

def readDigits (cs : List Char) : Option (List Char × List Char) :=
  let ds := cs.takeWhile Char.isDigit
  if ds.isEmpty then none else some (ds, cs.drop ds.length)

def readFraction : List Char → Option (List Char × List Char)
  | '.' :: rest => readDigits rest
  | cs => some ([], cs)

def readPower : List Char → Option (Int × List Char)
  | '+' :: rest => (readDigits rest).map fun (ds, rest) => (Int.ofNat (Text.ofDigits ds), rest)
  | '-' :: rest => (readDigits rest).map fun (ds, rest) => (- Int.ofNat (Text.ofDigits ds), rest)
  | cs => (readDigits cs).map fun (ds, rest) => (Int.ofNat (Text.ofDigits ds), rest)

def readExponent : List Char → Option (Option Int × List Char)
  | 'e' :: rest => (readPower rest).map fun (n, rest) => (some n, rest)
  | 'E' :: rest => (readPower rest).map fun (n, rest) => (some n, rest)
  | cs => some (none, cs)

/-- Reads a number literal behind its sign. The digits before the point do not begin with a needless zero. -/
def readNumeral (negative : Bool) (cs : List Char) : Option (Numeral × List Char) := do
  let (whole, cs) ← readDigits cs
  if whole.length > 1 ∧ whole.head? = some '0' then none
  let (fraction, cs) ← readFraction cs
  let (exponent, cs) ← readExponent cs
  let numeral :=
    if negative = false ∧ fraction = [] ∧ exponent = none then Numeral.natural (Text.ofDigits whole)
    else .scientific negative (Text.ofDigits whole) (fraction.map fun c => c.toNat - 48) (exponent.getD 0)
  return (numeral, cs)

mutual

/-- Reads a value that begins at once. A value takes a character at least, which is what the fuel counts. -/
def readValue : (fuel : Nat) → List Char → Option (Json × List Char)
  | 0, _ => none
  | fuel + 1, cs =>
    match cs with
    | 'n' :: 'u' :: 'l' :: 'l' :: rest => some (null, rest)
    | 't' :: 'r' :: 'u' :: 'e' :: rest => some (bool true, rest)
    | 'f' :: 'a' :: 'l' :: 's' :: 'e' :: rest => some (bool false, rest)
    | '"' :: rest => (readString rest).map fun (s, rest) => (string s, rest)
    | '[' :: rest =>
      match skip rest with
      | ']' :: rest => some (array [], rest)
      | rest => (readItems fuel rest).map fun (items, rest) => (array items, rest)
    | '{' :: rest =>
      match skip rest with
      | '}' :: rest => some (object [], rest)
      | rest => (readMembers fuel rest).map fun (members, rest) => (object members, rest)
    | '-' :: rest => (readNumeral true rest).map fun (n, rest) => (number n, rest)
    | cs => (readNumeral false cs).map fun (n, rest) => (number n, rest)

def readItems : (fuel : Nat) → List Char → Option (List Json × List Char)
  | 0, _ => none
  | fuel + 1, cs => do
    let (item, rest) ← readValue fuel cs
    match skip rest with
    | ']' :: rest => some ([item], rest)
    | ',' :: rest =>
      let (items, rest) ← readItems fuel (skip rest)
      return (item :: items, rest)
    | _ => none

def readMembers : (fuel : Nat) → List Char → Option (List (Option String × Json) × List Char)
  | 0, _ => none
  | fuel + 1, cs =>
    match cs with
    | '"' :: rest => do
      let (key, rest) ← readString rest
      match skip rest with
      | ':' :: rest =>
        let (value, rest) ← readValue fuel (skip rest)
        match skip rest with
        | '}' :: rest => some ([(key, value)], rest)
        | ',' :: rest =>
          let (members, rest) ← readMembers fuel (skip rest)
          return ((key, value) :: members, rest)
        | _ => none
      | _ => none
    | _ => none

end

def parse? (s : String) : Option Json :=
  match readValue (s.length + 1) (skip s.toList) with
  | some (value, rest) => if skip rest = [] then some value else none
  | none => none

end TieredLedger.Json
