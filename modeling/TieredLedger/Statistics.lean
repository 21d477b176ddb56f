import TieredLedger.Access
import TieredLedger.Text.Number

/-! Storage statistics of the tracked blocks, and hints for whoever runs the storage. -/
namespace TieredLedger

abbrev TierFigures := List (Tier × UInt64)

namespace TierFigures

def get (f : TierFigures) (t : Tier) : UInt64 := (f.lookup t).getD 0

def set (f : TierFigures) (t : Tier) (n : UInt64) : TierFigures :=
  match f with
  | [] => [(t, n)]
  | (u, m) :: rest => if u = t then (t, n) :: rest else (u, m) :: set rest t n

def zero : TierFigures := Tier.all.map fun t => (t, 0)

def sum (f : TierFigures) : Nat := f.foldl (fun total (_, n) => total + n.toNat) 0

def toJson (f : TierFigures) : Json := .record (f.map fun (t, n) => (t.name, .word n))

def ofJson? (j : Json) : Option TierFigures := do
  let members ← j.map? Json.word?
  let named ← members.mapM fun (name, n) => (Tier.ofName? name).map fun t => (t, n)
  return named.foldl (fun f (t, n) => set f t n) []

end TierFigures

structure Statistics where
  blocksPerTier : TierFigures
  bytesPerTier : TierFigures
  totalSize : UInt64
  /-- The size once everything off the chain is compressed. -/
  estimatedSize : UInt64
  /-- How much compression saves, in percent. -/
  compressionRatio : Float
  migrations : UInt64
  computedAt : Instant

namespace Statistics

def maxEstimable : UInt64 := 4611686018427387903

def estimate (tier : Tier) (size : UInt64) : UInt64 := if tier.isOffChain then size * 2 / 5 else size

def add? (a b : UInt64) : Option UInt64 := if a.toNat + b.toNat < UInt64.size then some (a + b) else none

structure Totals where
  blocks : TierFigures
  bytes : TierFigures
  size : UInt64
  estimated : UInt64
deriving DecidableEq, Repr

def Totals.zero : Totals := ⟨.zero, .zero, 0, 0⟩

def orFail {α : Type} (error : StoreError) : Option α → Except StoreError α
  | some a => .ok a
  | none => .error error

def Totals.add (t : Totals) (number : UInt64) (a : Access) : Except StoreError Totals := do
  if a.tier.isOffChain ∧ a.size > maxEstimable then throw (.unestimable number a.tier.name a.size maxEstimable)
  let size ← orFail (.totalOverflow number a.size) (add? t.size a.size)
  let estimated ← orFail (.estimateOverflow number a.size) (add? t.estimated (estimate a.tier a.size))
  let bytes ← orFail (.tierOverflow number a.size) (add? (t.bytes.get a.tier) a.size)
  return ⟨t.blocks.set a.tier (t.blocks.get a.tier + 1), t.bytes.set a.tier bytes, size, estimated⟩

def ratio (estimated total : UInt64) : Float :=
  if total = 0 then 0.0 else (1.0 - estimated.toFloat / total.toFloat) * 100.0

/-- The statistics of tracked blocks. Nothing wraps: what does not fit is an error that names the block. -/
def compute (entries : List (UInt64 × Access)) (migrations : UInt64) (now : Instant) :
    Except StoreError Statistics := do
  let t ← entries.foldlM (fun t (number, a) => t.add number a) Totals.zero
  return ⟨t.blocks, t.bytes, t.size, t.estimated, ratio t.estimated t.size, migrations, now⟩

def blocksIn (s : Statistics) (t : Tier) : UInt64 := s.blocksPerTier.get t

def bytesIn (s : Statistics) (t : Tier) : UInt64 := s.bytesPerTier.get t

def totalBlocks (s : Statistics) : UInt64 := UInt64.ofNat s.blocksPerTier.sum

def ofJson? (j : Json) : Option Statistics := do
  match ← j.record? ["blocks_per_tier", "bytes_per_tier", "total_size", "estimated_compressed_size",
      "compression_ratio", "migration_count", "computed_at"] with
  | [blocks, bytes, total, estimated, ratio, migrations, computedAt] =>
    return {
      blocksPerTier := ← Json.required TierFigures.ofJson? blocks
      bytesPerTier := ← Json.required TierFigures.ofJson? bytes
      totalSize := ← Json.required Json.word? total
      estimatedSize := ← Json.required Json.word? estimated
      compressionRatio := ← Json.required Json.float? ratio
      migrations := ← Json.required Json.word? migrations
      computedAt := ← Json.required Instant.ofJson? computedAt }
  | _ => none

def toJsonWith (ratio : Json) (s : Statistics) : Json :=
  .record [("blocks_per_tier", s.blocksPerTier.toJson), ("bytes_per_tier", s.bytesPerTier.toJson),
    ("total_size", .word s.totalSize), ("estimated_compressed_size", .word s.estimatedSize),
    ("compression_ratio", ratio), ("migration_count", .word s.migrations), ("computed_at", s.computedAt.toJson)]

def hotWarningBytes : UInt64 := 104857600

def bytesPerMebibyte : UInt64 := 1048576

def lowRatio : Float := 40.0

def archiveWarning : Float := 50.0

def hotHint (s : Statistics) : List String :=
  let hot := s.bytesIn .hot
  if hot > hotWarningBytes then
    ["Hot tier holds " ++ toString (hot / bytesPerMebibyte)
      ++ " MiB; consider lowering the hot threshold or raising the access count threshold"]
  else []

def compressionHint (s : Statistics) (policy : Policy) : List String :=
  if !policy.compressOnCold then
    ["Compression on cold migration is disabled; enable it to shrink off-chain storage"]
  else if s.totalSize > 0 && s.compressionRatio < lowRatio then
    ["Estimated compression ratio is " ++ Text.onePlace s.compressionRatio
      ++ "%; moving older blocks to cold storage would save space"]
  else []

def sweepHint (policy : Policy) : List String :=
  if policy.autoTiering then []
  else ["Auto-tiering is disabled; blocks will only move on explicit migration requests"]

def archiveHint (s : Statistics) : List String :=
  let total := s.totalBlocks
  let share := (s.blocksIn .archive).toFloat / total.toFloat * 100.0
  if total > 0 && share > archiveWarning then
    [Text.onePlace share ++ "% of blocks are archived; schedule periodic off-chain integrity checks"]
  else []

def hints (s : Statistics) (policy : Policy) : List String :=
  match hotHint s ++ compressionHint s policy ++ sweepHint policy ++ archiveHint s with
  | [] => ["Storage tiering looks healthy; no changes recommended"]
  | found => found

end Statistics

end TieredLedger
