import TieredLedger.Bytes

/-! Base64 text in its two alphabets. Reading refuses every text that writing does not produce, and says why. -/
namespace TieredLedger.Base64

/-- An alphabet: the last two of the 64 symbols, and whether the text is filled up to whole groups of four. -/
structure Alphabet where
  symbol62 : UInt8
  symbol63 : UInt8
  padded : Bool

def Alphabet.standard : Alphabet := ⟨43, 47, true⟩

def Alphabet.urlSafe : Alphabet := ⟨45, 95, false⟩

def pad : UInt8 := 61

inductive Fault
  /-- A byte that is no symbol of the alphabet here, with its offset. -/
  | symbol (byte : UInt8) (offset : Nat)
  /-- A single symbol is left over at the end. -/
  | length (n : Nat)
  /-- The last symbol carries bits that belong to no byte. -/
  | lastSymbol (byte : UInt8) (offset : Nat)
  /-- Padding is missing, or stands where none is allowed. -/
  | padding
deriving DecidableEq, Repr

def Fault.message : Fault → String
  | .symbol byte offset => s!"Invalid symbol {byte}, offset {offset}."
  | .length n => s!"Invalid input length: {n}"
  | .lastSymbol byte offset => s!"Invalid last symbol {byte}, offset {offset}."
  | .padding => "Invalid padding"

def Alphabet.symbol (α : Alphabet) (n : Nat) : UInt8 :=
  if n < 26 then UInt8.ofNat (65 + n)
  else if n < 52 then UInt8.ofNat (71 + n)
  else if n < 62 then UInt8.ofNat (n - 4)
  else if n = 62 then α.symbol62
  else α.symbol63

def Alphabet.value? (α : Alphabet) (b : UInt8) : Option Nat :=
  if 65 ≤ b ∧ b ≤ 90 then some (b.toNat - 65)
  else if 97 ≤ b ∧ b ≤ 122 then some (b.toNat - 71)
  else if 48 ≤ b ∧ b ≤ 57 then some (b.toNat + 4)
  else if b = α.symbol62 then some 62
  else if b = α.symbol63 then some 63
  else none

/-- Three bytes become four symbols; one or two left over become two or three, then padding if the alphabet
wants it. -/
def encode (α : Alphabet) : Bytes → Bytes
  | [] => []
  | [a] =>
    [α.symbol (a.toNat / 4), α.symbol (a.toNat % 4 * 16)] ++ (if α.padded then [pad, pad] else [])
  | [a, b] =>
    [α.symbol (a.toNat / 4), α.symbol (a.toNat % 4 * 16 + b.toNat / 16), α.symbol (b.toNat % 16 * 4)] ++
      (if α.padded then [pad] else [])
  | a :: b :: c :: rest =>
    α.symbol (a.toNat / 4) :: α.symbol (a.toNat % 4 * 16 + b.toNat / 16) ::
      α.symbol (b.toNat % 16 * 4 + c.toNat / 64) :: α.symbol (c.toNat % 64) :: encode α rest

def readSymbol (α : Alphabet) (offset : Nat) (b : UInt8) : Except Fault Nat :=
  match α.value? b with
  | some v => .ok v
  | none => .error (.symbol b offset)

/-- Reads the last group: the values of its symbols and the number of fillers after them. The group starts at
`offset`, and `index` of its bytes have been read. A filler must come after two symbols, and only fillers may
follow it. -/
def readLast (α : Alphabet) (offset index : Nat) : Bytes → Except Fault (List Nat × Nat)
  | [] => .ok ([], 0)
  | b :: rest =>
    if b = pad then
      if 2 ≤ index ∧ rest.all (· == pad) then .ok ([], rest.length + 1)
      else .error (.symbol pad (offset + index))
    else do
      let v ← readSymbol α (offset + index) b
      let (vs, fillers) ← readLast α offset (index + 1) rest
      return (v :: vs, fillers)

/-- The bytes of up to four symbol values, and the bits of the last value that belong to no byte. -/
def joinLast : List Nat → Bytes × Nat
  | [u, v] => ([UInt8.ofNat (u * 4 + v / 16)], v % 16)
  | [u, v, w] => ([UInt8.ofNat (u * 4 + v / 16), UInt8.ofNat (v % 16 * 16 + w / 4)], w % 4)
  | [u, v, w, x] =>
    ([UInt8.ofNat (u * 4 + v / 16), UInt8.ofNat (v % 16 * 16 + w / 4), UInt8.ofNat (w % 4 * 64 + x)], 0)
  | _ => ([], 0)

def decodeLast (α : Alphabet) (offset : Nat) (group : Bytes) : Except Fault Bytes := do
  let (values, fillers) ← readLast α offset 0 group
  if group.isEmpty then return []
  if values.length < 2 then throw (.length (offset + values.length))
  if α.padded then
    if (values.length + fillers) % 4 ≠ 0 then throw .padding
  else if fillers ≠ 0 then throw .padding
  let (bytes, spare) := joinLast values
  if spare ≠ 0 then
    throw (.lastSymbol (group.getD (values.length - 1) 0) (offset + values.length - 1))
  return bytes

def decodeGroups (α : Alphabet) (offset : Nat) : Bytes → Except Fault Bytes
  | a :: b :: c :: d :: e :: rest => do
    let u ← readSymbol α offset a
    let v ← readSymbol α (offset + 1) b
    let w ← readSymbol α (offset + 2) c
    let x ← readSymbol α (offset + 3) d
    let more ← decodeGroups α (offset + 4) (e :: rest)
    return UInt8.ofNat (u * 4 + v / 16) :: UInt8.ofNat (v % 16 * 16 + w / 4) ::
      UInt8.ofNat (w % 4 * 64 + x) :: more
  | group => decodeLast α offset group

/-- A byte that is no symbol and stands alone after the last whole group; it is reported before all else. -/
def strayEnd? (α : Alphabet) (text : Bytes) : Option Fault :=
  if text.length % 4 = 1 then
    match text.getLast? with
    | some b => if b ≠ pad ∧ (α.value? b).isNone then some (.symbol b (text.length - 1)) else none
    | none => none
  else none

def decode (α : Alphabet) (text : Bytes) : Except Fault Bytes :=
  match strayEnd? α text with
  | some fault => .error fault
  | none => decodeGroups α 0 text

def asText (symbols : Bytes) : String := String.ofList (symbols.map fun b => Char.ofNat b.toNat)

end TieredLedger.Base64
