import TieredLedger.Json.Value

/-! Storage tiers, from the hottest, kept in the block, to the coldest, kept off the chain. -/
namespace TieredLedger

inductive Tier
  /-- In the block, read often. -/
  | hot
  /-- In the block, read now and then. -/
  | warm
  /-- Off the chain. -/
  | cold
  /-- Off the chain, hardly ever read. -/
  | archive
deriving DecidableEq, Repr, Inhabited

namespace Tier

def all : List Tier := [hot, warm, cold, archive]

def level : Tier → Nat
  | hot => 0
  | warm => 1
  | cold => 2
  | archive => 3

def isOffChain : Tier → Bool
  | cold | archive => true
  | hot | warm => false

def isColderThan (t other : Tier) : Bool := t.level > other.level

def name : Tier → String
  | hot => "hot"
  | warm => "warm"
  | cold => "cold"
  | archive => "archive"

def ofName? (s : String) : Option Tier := all.find? fun t => t.name == s

def latency : Tier → String
  | hot | warm => "inline"
  | cold => "off-chain retrieval"
  | archive => "off-chain retrieval (may be slow)"

def toJson (t : Tier) : Json := .text t.name

def ofJson? (j : Json) : Option Tier := j.choice?.bind ofName?

end Tier

end TieredLedger
