import TieredLedger.Block
import TieredLedger.Policy
import Std.Data.TreeMap

/-! Access records of blocks, the tracker that keeps one for each block, and the tier that a record recommends. -/
namespace TieredLedger

/-- What is known of the accesses to a block, and where its payload is kept. -/
structure Access where
  lastAccessed : Instant
  count : UInt64
  size : UInt64
  tier : Tier
  blob : Option BlobRef
deriving DecidableEq, Repr, Inhabited

namespace Access

def first (size : UInt64) (policy : Policy) (now : Instant) : Access where
  lastAccessed := now
  count := 1
  size := size
  tier := policy.initialTier size
  blob := none

def touched (a : Access) (now : Instant) : Access :=
  { a with
    count := if a.count = 0xFFFFFFFFFFFFFFFF then a.count else a.count + 1
    lastAccessed := a.lastAccessed.max now }

def moved (a : Access) (tier : Tier) (blob : Option BlobRef) : Access := { a with tier, blob }

def toJson (a : Access) : Json :=
  .record [("last_accessed", a.lastAccessed.toJson), ("access_count", .word a.count), ("data_size", .word a.size),
    ("current_tier", a.tier.toJson), ("off_chain_reference", .option BlobRef.toJson a.blob)]

def ofJson? (j : Json) : Option Access := do
  match ← j.record? ["last_accessed", "access_count", "data_size", "current_tier", "off_chain_reference"] with
  | [lastAccessed, count, size, tier, blob] =>
    return {
      lastAccessed := ← Json.required Instant.ofJson? lastAccessed
      count := ← Json.required Json.word? count
      size := ← Json.required Json.word? size
      tier := ← Json.required Tier.ofJson? tier
      blob := ← Json.optional BlobRef.ofJson? blob }
  | _ => none

end Access

structure Tracker where
  entries : Std.TreeMap UInt64 Access

namespace Tracker

def empty : Tracker := ⟨∅⟩

instance : Inhabited Tracker := ⟨empty⟩

def get? (t : Tracker) (number : UInt64) : Option Access := t.entries[number]?

def insert (t : Tracker) (number : UInt64) (a : Access) : Tracker := ⟨t.entries.insert number a⟩

def getOrCreate (t : Tracker) (number size : UInt64) (policy : Policy) (now : Instant) : Access × Tracker :=
  match t.get? number with
  | some a => (a, t)
  | none =>
    let a := Access.first size policy now
    (a, t.insert number a)

def recordAccess (t : Tracker) (number size : UInt64) (policy : Policy) (now : Instant) : Access × Tracker :=
  let known := (t.get? number).getD { Access.first size policy now with count := 0 }
  let a := known.touched now
  (a, t.insert number a)

def commit (t : Tracker) (number : UInt64) (tier : Tier) (blob : Option BlobRef) : Bool × Tracker :=
  match t.get? number with
  | some a => (true, t.insert number (a.moved tier blob))
  | none => (false, t)

def evict (t : Tracker) (number : UInt64) : Option Access × Tracker := (t.get? number, ⟨t.entries.erase number⟩)

def snapshot (t : Tracker) : List (UInt64 × Access) := t.entries.toList

def size (t : Tracker) : Nat := t.entries.size

def isEmpty (t : Tracker) : Bool := t.entries.isEmpty

end Tracker

/-- The tier recommended for a block. The first rule that fits decides: young, often read and read within a day is
hot; then the age alone decides. Times in the future count as just now. -/
def classify (block : Block) (access : Access) (policy : Policy) (now : Instant) : Tier :=
  let age := block.createdAt.elapsed now
  let idle := access.lastAccessed.elapsed now
  if age < policy.hotThreshold.total ∧ access.count ≥ policy.accessThreshold ∧ idle < Span.oneDay.total then .hot
  else if age < policy.warmThreshold.total then .warm
  else if age < policy.coldThreshold.total then .cold
  else .archive

end TieredLedger
