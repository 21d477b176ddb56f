import TieredLedger.StoreError
import TieredLedger.Tier

/-! What becomes of moves between tiers, and the reports of sweeps. -/
namespace TieredLedger

inductive MoveOutcome
  /-- The block was moved; the size of a payload that came back into the block. -/
  | moved (restored : Option UInt64)
  /-- The block was in the tier all along. -/
  | alreadyThere
  /-- The block stayed where it was. -/
  | failed (error : StoreError)
deriving DecidableEq, Repr

structure MoveResult where
  number : UInt64
  origin : Tier
  target : Tier
  outcome : MoveOutcome
deriving DecidableEq, Repr

namespace MoveResult

def success (r : MoveResult) : Bool :=
  match r.outcome with
  | .moved _ => true
  | .alreadyThere | .failed _ => false

def restored (r : MoveResult) : Option UInt64 :=
  match r.outcome with
  | .moved restored => restored
  | .alreadyThere | .failed _ => none

def message (r : MoveResult) : String :=
  match r.outcome with
  | .moved _ => "migrated from " ++ r.origin.name ++ " to " ++ r.target.name
  | .alreadyThere => "already in target tier"
  | .failed error => error.message

end MoveResult

/-- The state of a block's latest move, unless it is over and went well. -/
inductive MoveStatus
  | inProgress (target : Tier)
  | failed (error : StoreError)
deriving DecidableEq, Repr

def MoveStatus.isFailed : MoveStatus → Bool
  | inProgress _ => false
  | failed _ => true

structure SweepReport where
  analyzed : Nat
  migrated : Nat
  failed : Nat
  /-- A result for every move that was tried, in the order of the blocks. -/
  results : List MoveResult
  completed : Bool
deriving DecidableEq, Repr

namespace SweepReport

def start (blocks : Nat) : SweepReport := ⟨blocks, 0, 0, [], false⟩

def disabled : SweepReport := { start 0 with completed := true }

def record (r : SweepReport) (result : MoveResult) : SweepReport :=
  { r with
    migrated := if result.success then r.migrated + 1 else r.migrated
    failed := if result.success then r.failed else r.failed + 1
    results := r.results ++ [result] }

def successRate (r : SweepReport) : Float :=
  let attempted := r.migrated + r.failed
  if attempted = 0 then 100.0
  else (UInt64.ofNat r.migrated).toFloat / (UInt64.ofNat attempted).toFloat * 100.0

end SweepReport

end TieredLedger
