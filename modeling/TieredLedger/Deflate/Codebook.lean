import TieredLedger.Bytes

/-! Bit strings in the order in which a compressed stream is read, the lowest bit of a byte first, and codebooks: each
symbol has a code of one to fifteen bits, and the code lengths alone fix the codes. Codes of one length are consecutive
in the order of their symbols, and shorter codes come before longer ones. -/
namespace TieredLedger.Deflate

abbrev Bits := List Bool

inductive Fault
  /-- The stream breaks a rule of the format. -/
  | corrupt
  /-- The stream ends before its last block does. -/
  | incomplete
deriving DecidableEq, Repr

namespace Bits

def ofNat : (count : Nat) → Nat → Bits
  | 0, _ => []
  | count + 1, n => (n % 2 == 1) :: ofNat count (n / 2)

def toNat : Bits → Nat
  | [] => 0
  | b :: rest => b.toNat + 2 * toNat rest

def ofBytes (bs : Bytes) : Bits := bs.flatMap fun b => ofNat 8 b.toNat

/-- Packs bits into bytes after those already packed, which are kept last byte first; zeros fill the last byte. -/
def packOnto (packed : Bytes) : Bits → Bytes
  | a :: b :: c :: d :: e :: f :: g :: h :: rest =>
    packOnto (UInt8.ofNat (toNat [a, b, c, d, e, f, g, h]) :: packed) rest
  | [] => packed.reverse
  | rest => (UInt8.ofNat (toNat rest) :: packed).reverse

def toBytes (bits : Bits) : Bytes := packOnto [] bits

def number (count : Nat) (bits : Bits) : Except Fault (Nat × Bits) :=
  let (front, rest) := bits.splitAt count
  if front.length < count then .error .incomplete else .ok (toNat front, rest)

/-- Drops what is left of the byte being read. Streams are whole bytes, so that the length tells how much that is. -/
def align (bits : Bits) : Bits := bits.drop (bits.length % 8)

@[simp] theorem length_ofNat (count n : Nat) : (ofNat count n).length = count := by
  induction count generalizing n with
  | zero => rfl
  | succ count ih => simp [ofNat, ih]

/-- Bits keep the low end of a number. -/
theorem toNat_ofNat (count n : Nat) : toNat (ofNat count n) = n % Nat.pow 2 count := by
  induction count generalizing n with
  | zero => simp [ofNat, toNat, Nat.mod_one]
  | succ count ih =>
    have hbit : ((n % 2 == 1 : Bool)).toNat = n % 2 := by
      rcases Nat.mod_two_eq_zero_or_one n with h | h <;> simp [h]
    have hpow : Nat.pow 2 (count + 1) = 2 * Nat.pow 2 count := Nat.mul_comm _ _
    rw [ofNat, toNat, ih, hbit, hpow, Nat.mod_mul]

end Bits

inductive Codebook
  /-- No symbol has a code. -/
  | empty
  /-- One symbol alone has a code, a single zero. -/
  | single (symbol : Nat)
  /-- Every bit string begins with a code; the symbols by code length, from one bit on. -/
  | complete (levels : List (Array Nat))
deriving Repr

namespace Codebook

def maxLength : Nat := 15

def level (lengths : List Nat) (length : Nat) : Array Nat :=
  (lengths.zipIdx.filterMap fun (l, symbol) => if l = length then some symbol else none).toArray

def levels (lengths : List Nat) : List (Array Nat) :=
  (List.range maxLength).map fun k => level lengths (k + 1)

def space : (unit : Nat) → List (Array Nat) → Nat
  | _, [] => 0
  | unit, level :: deeper => level.size * unit + space (unit / 2) deeper

/-- The codebook of the given code lengths, symbol by symbol; zero stands for no code. The code space must be used up
exactly, save that there may be no code at all, or a single one of one bit. -/
def ofLengths? (lengths : List Nat) : Option Codebook :=
  let levels := levels lengths
  if space (Nat.pow 2 (maxLength - 1)) levels = Nat.pow 2 maxLength then some (.complete levels)
  else
    match lengths.zipIdx.filter (0 < ·.1) with
    | [] => some .empty
    | [(1, symbol)] => some (.single symbol)
    | _ => none

def isComplete : Codebook → Bool
  | complete _ => true
  | _ => false

/-- Follows the levels; `above` is how far the bits read so far lie above the codes of that length. -/
def walk : List (Array Nat) → (above : Nat) → Bits → Except Fault (Nat × Bits)
  | [], _, _ => .error .corrupt
  | _ :: _, _, [] => .error .incomplete
  | level :: deeper, above, b :: rest =>
    let place := 2 * above + b.toNat
    match level[place]? with
    | some symbol => .ok (symbol, rest)
    | none => walk deeper (place - level.size) rest

def next : Codebook → Bits → Except Fault (Nat × Bits)
  | complete levels, bits => walk levels 0 bits
  | _, [] => .error .incomplete
  | single symbol, false :: rest => .ok (symbol, rest)
  | _, _ => .error .corrupt

end Codebook

end TieredLedger.Deflate
