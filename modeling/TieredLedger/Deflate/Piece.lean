import TieredLedger.Bytes
import Std.Data.HashMap

/-! Pieces of data: a byte given outright, or a stretch copied from what came before. -/
namespace TieredLedger.Deflate

inductive Piece
  /-- A byte. -/
  | literal (byte : UInt8)
  /-- `length` bytes, each equal to the byte `distance` places before it. -/
  | copy (length distance : Nat)
deriving DecidableEq, Repr

namespace Piece

def maxLength : Nat := 258

def minLength : Nat := 3

def maxDistance : Nat := 32768

def lookBack (data : Array UInt8) (distance : Nat) : UInt8 :=
  if distance ≤ data.size then data[data.size - distance]?.getD 0 else 0

/-- The data with a copied stretch after it, byte by byte, so that a copy may run into itself. -/
def extend (data : Array UInt8) (distance : Nat) : (length : Nat) → Array UInt8
  | 0 => data
  | length + 1 => extend (data.push (lookBack data distance)) distance length

def append (data : Array UInt8) : Piece → Array UInt8
  | literal byte => data.push byte
  | copy length distance => extend data distance length

def expand (pieces : List Piece) : Bytes := (pieces.foldl append #[]).toList

def agreement (data : Array UInt8) (i j : Nat) : (limit : Nat) → Nat
  | 0 => 0
  | limit + 1 =>
    match data[i]?, data[j]? with
    | some a, some b => if a = b then agreement data (i + 1) (j + 1) limit + 1 else 0
    | _, _ => 0

abbrev Sightings := Std.HashMap Nat Nat

def tripleAt? (data : Array UInt8) (i : Nat) : Option Nat :=
  match data[i]?, data[i + 1]?, data[i + 2]? with
  | some a, some b, some c => some (a.toNat + 256 * (b.toNat + 256 * c.toNat))
  | _, _, _ => none

def note (data : Array UInt8) (seen : Sightings) (i : Nat) : (count : Nat) → Sightings
  | 0 => seen
  | count + 1 =>
    match tripleAt? data i with
    | some triple => note data (seen.insert triple i) (i + 1) count
    | none => seen

def copyAt? (data : Array UInt8) (seen : Sightings) (i : Nat) : Option (Nat × Nat) := do
  let triple ← tripleAt? data i
  let j ← seen[triple]?
  let length := agreement data i j maxLength
  if j < i ∧ i - j ≤ maxDistance ∧ minLength ≤ length then some (length, i - j) else none

def splitFrom (data : Array UInt8) (i : Nat) (seen : Sightings) (found : List Piece) : List Piece :=
  if h : i < data.size then
    match copyAt? data seen i with
    | some (length + 1, distance) =>
      splitFrom data (i + (length + 1)) (note data seen i (length + 1)) (copy (length + 1) distance :: found)
    | _ => splitFrom data (i + 1) (note data seen i 1) (literal data[i] :: found)
  else found.reverse
termination_by data.size - i

/-- Pieces that make up the data, copying each stretch whose first three bytes were seen before. -/
def split (bs : Bytes) : List Piece := splitFrom bs.toArray 0 ∅ []

end Piece

end TieredLedger.Deflate
