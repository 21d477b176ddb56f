import TieredLedger.Json.Value
import TieredLedger.StoreError
import TieredLedger.Tier

/-! Tiering policies: the ages at which payloads cool, and what else decides where they are kept. -/
namespace TieredLedger

structure Policy where
  /-- Younger blocks may stay hot. -/
  hotThreshold : Span
  /-- Younger blocks are at most warm. -/
  warmThreshold : Span
  /-- Younger blocks are at most cold; all others are archived. -/
  coldThreshold : Span
  /-- Larger payloads start warm. -/
  sizeThreshold : UInt64
  /-- Fewer accesses than this keep no block hot. -/
  accessThreshold : UInt64
  /-- Whether payloads are compressed on their way off the chain. -/
  compressOnCold : Bool
  /-- Whether sweeps move blocks at all. -/
  autoTiering : Bool
deriving DecidableEq, Repr

namespace Policy

def standard : Policy where
  hotThreshold := .ofDays 7
  warmThreshold := .ofDays 30
  coldThreshold := .ofDays 90
  sizeThreshold := 1048576
  accessThreshold := 5
  compressOnCold := true
  autoTiering := true

instance : Inhabited Policy := ⟨standard⟩

def validate (p : Policy) : Except StoreError Unit :=
  if p.hotThreshold.total = 0 then .error .zeroHotThreshold
  else if p.warmThreshold.total ≤ p.hotThreshold.total ∨ p.coldThreshold.total ≤ p.warmThreshold.total then
    .error (.unorderedThresholds p.hotThreshold p.warmThreshold p.coldThreshold)
  else .ok ()

def initialTier (p : Policy) (size : UInt64) : Tier := if size > p.sizeThreshold then .warm else .hot

/-- A payload starts on the chain. -/
theorem initialTier_isOffChain (p : Policy) (size : UInt64) : (p.initialTier size).isOffChain = false := by
  rw [initialTier]
  split <;> rfl

def toJson (p : Policy) : Json :=
  .record [("hot_threshold", .word p.hotThreshold.seconds), ("warm_threshold", .word p.warmThreshold.seconds),
    ("cold_threshold", .word p.coldThreshold.seconds), ("size_threshold_bytes", .word p.sizeThreshold),
    ("access_count_threshold", .word p.accessThreshold), ("compress_on_cold", .bool p.compressOnCold),
    ("enable_auto_tiering", .bool p.autoTiering)]

def ofJson? (j : Json) : Option Policy := do
  match ← j.record? ["hot_threshold", "warm_threshold", "cold_threshold", "size_threshold_bytes",
      "access_count_threshold", "compress_on_cold", "enable_auto_tiering"] with
  | [hot, warm, cold, size, access, compress, auto] =>
    return {
      hotThreshold := .ofSeconds (← Json.required Json.word? hot)
      warmThreshold := .ofSeconds (← Json.required Json.word? warm)
      coldThreshold := .ofSeconds (← Json.required Json.word? cold)
      sizeThreshold := ← Json.required Json.word? size
      accessThreshold := ← Json.required Json.word? access
      compressOnCold := ← Json.required Json.bool? compress
      autoTiering := ← Json.required Json.bool? auto }
  | _ => none

end Policy

end TieredLedger
