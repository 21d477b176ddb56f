import TieredLedger.Proofs.Tiering.Carry
import TieredLedger.Proofs.Tiering.Move

/-! Tiering over a store in memory never loses a payload: whatever is done in whatever order, with faults or without,
the reference of a block leads to bytes that give its payload back. -/
namespace TieredLedger.Service

/-- Every tracked block is known; its record has a reference if the payload is off the chain, and the store keeps what
the reference stands for. -/
structure Intact (payloads : Payloads) (deflate : Bytes → Bytes) (policy : Policy) (password : Option String)
    (s : Service MemoryStore) : Prop where
  deflate_eq : s.deflate = deflate
  policy_eq : s.policy = policy
  password_eq : s.password = password
  tracked : ∀ n access, s.tracker.get? n = some access → ∃ payload, payloads n = some payload ∧
    (access.tier.isOffChain = true → access.blob.isSome = true) ∧
      ∀ ref ∈ access.blob, Keeps deflate policy password s.store n payload ref

namespace Intact

variable {payloads : Payloads} {deflate : Bytes → Bytes} {policy : Policy} {password : Option String}
  {s : Service MemoryStore} {block : Block} {blocks : List Block}

private theorem create : Intact payloads deflate policy password (create deflate policy password .empty) := by
  refine ⟨rfl, rfl, rfl, fun n access h => ?_⟩
  rw [Service.create, Tracker.get?_empty] at h
  cases h

/-- A block seen for the first time is on the chain, without a reference. -/
theorem begun (hs : Intact payloads deflate policy password s) (hknown : payloads block.number = some block.payload)
    (now : Instant) : Intact payloads deflate policy password (s.begun now block) := by
  refine ⟨hs.deflate_eq, hs.policy_eq, hs.password_eq, fun n access h => ?_⟩
  rcases Tracker.get?_getOrCreate h with h | ⟨rfl, rfl⟩
  · exact hs.tracked n access h
  · refine ⟨block.payload, hknown, fun hoff => ?_, fun ref href => ?_⟩
    · rw [Access.first, Policy.initialTier_isOffChain] at hoff
      cases hoff
    · cases href

/-- The record that a move begins with is good. -/
theorem begins (hs : Intact payloads deflate policy password s) (hknown : payloads block.number = some block.payload)
    (now : Instant) :
    ((s.tracked now block).1.tier.isOffChain = true → (s.tracked now block).1.blob.isSome = true) ∧
      ∀ ref ∈ (s.tracked now block).1.blob, Keeps deflate policy password s.store block.number block.payload ref := by
  obtain ⟨payload, hpayload, hoff, hrefs⟩ :=
    (hs.begun hknown now).tracked block.number _ Tracker.get?_getOrCreate_self
  rw [hknown, Option.some.injEq] at hpayload
  subst hpayload
  exact ⟨hoff, hrefs⟩

/-- Whatever becomes of a move, nothing is lost. -/
theorem migrate (hs : Intact payloads deflate policy password s) (hdeflate : Deflate.IsEncoder deflate)
    (hblock : block.blob = none) (hknown : payloads block.number = some block.payload) (now : Instant) (target : Tier) :
    Intact payloads deflate policy password ((Service.migrate MemoryStore.api now block target).run s).2 := by
  have hbegun := hs.begun hknown now
  obtain ⟨hoff, hrefs⟩ := hs.begins hknown now
  have hcarried := carried hblock hrefs hdeflate now target hknown hoff
  rw [← hs.deflate_eq, ← hs.policy_eq, ← hs.password_eq] at hcarried
  have hends := migrate_ends MemoryStore.api now block target s
  generalize (Service.migrate MemoryStore.api now block target).run s = result at hends ⊢
  cases hends with
  | already _ => exact hbegun
  | failed _ answer =>
    rw [answer, hs.deflate_eq, hs.policy_eq, hs.password_eq] at hcarried
    refine ⟨hs.deflate_eq, hs.policy_eq, hs.password_eq, fun n access h => ?_⟩
    obtain ⟨payload, hpayload, hoff, hrefs⟩ := hbegun.tracked n access h
    exact ⟨payload, hpayload, hoff, fun ref href => hcarried.keeps n payload ref hpayload (hrefs ref href)⟩
  | moved _ answer =>
    rw [answer, hs.deflate_eq, hs.policy_eq, hs.password_eq] at hcarried
    refine ⟨hs.deflate_eq, hs.policy_eq, hs.password_eq, fun n access h => ?_⟩
    dsimp only at h
    rw [Tracker.get?_insert] at h
    split at h
    · next hnumber =>
      subst hnumber
      cases h
      exact ⟨block.payload, hknown, hcarried.off _ _ rfl, hcarried.refers _ _ rfl⟩
    · obtain ⟨payload, hpayload, hoff, hrefs⟩ := hbegun.tracked n access h
      exact ⟨payload, hpayload, hoff, fun ref href => hcarried.keeps n payload ref hpayload (hrefs ref href)⟩

private theorem sweep (hs : Intact payloads deflate policy password s) (hdeflate : Deflate.IsEncoder deflate)
    (hblocks : ∀ b ∈ blocks, b.blob = none ∧ payloads b.number = some b.payload) (clock now : Instant) :
    Intact payloads deflate policy password ((Service.sweep MemoryStore.api clock now blocks).run s).2 :=
  sweep_preserves (fun b hb _ hs => hs.begun (hblocks b hb).2 now)
    (fun b hb target _ hs => hs.migrate hdeflate (hblocks b hb).1 (hblocks b hb).2 clock target) hs

/-- An access changes neither the tier nor the reference of a block. -/
theorem recordAccess (hs : Intact payloads deflate policy password s)
    (hknown : payloads block.number = some block.payload)
    (now : Instant) : Intact payloads deflate policy password ((Service.recordAccess now block).run s).2 := by
  refine ⟨hs.deflate_eq, hs.policy_eq, hs.password_eq, fun n access h => ?_⟩
  change (s.tracker.recordAccess block.number block.payloadSize s.policy now).2.get? n = some access at h
  rw [Tracker.recordAccess] at h
  dsimp only at h
  rw [Tracker.get?_insert] at h
  split at h
  · next hnumber =>
    subst hnumber
    cases htracked : s.tracker.get? block.number with
    | none =>
      rw [htracked] at h
      cases h
      refine ⟨block.payload, hknown, fun hoff => ?_, fun ref href => by cases href⟩
      change (s.policy.initialTier block.payloadSize).isOffChain = true at hoff
      rw [Policy.initialTier_isOffChain] at hoff
      cases hoff
    | some known =>
      rw [htracked] at h
      cases h
      exact hs.tracked block.number known htracked
  · exact hs.tracked n access h

private theorem evict (hs : Intact payloads deflate policy password s) (number : UInt64) :
    Intact payloads deflate policy password ((Service.evict number).run s).2 := by
  refine ⟨hs.deflate_eq, hs.policy_eq, hs.password_eq, fun n access h => ?_⟩
  change (s.tracker.evict number).2.get? n = some access at h
  rw [Tracker.get?_evict] at h
  split at h
  · cases h
  · exact hs.tracked n access h

/-- Faults are switched on and off without touching what is stored. -/
theorem faults (hs : Intact payloads deflate policy password s) (failWrites failReads : Bool) :
    Intact payloads deflate policy password { s with store := { s.store with failWrites, failReads } } := by
  refine ⟨hs.deflate_eq, hs.policy_eq, hs.password_eq, fun n access h => ?_⟩
  obtain ⟨payload, hpayload, hoff, hrefs⟩ := hs.tracked n access h
  exact ⟨payload, hpayload, hoff, fun ref href => ⟨(hrefs ref href).handle, (hrefs ref href).compressed,
    (hrefs ref href).stored⟩⟩

end Intact

/-- A call of a service over a store in memory, or a switch of the faults of the store. -/
inductive Call
  | migrate (now : Instant) (block : Block) (target : Tier)
  | sweep (clock now : Instant) (blocks : List Block)
  | recordAccess (now : Instant) (block : Block)
  | evict (number : UInt64)
  | faults (failWrites failReads : Bool)

namespace Call

def blocks : Call → List Block
  | migrate _ block _ | recordAccess _ block => [block]
  | sweep _ _ blocks => blocks
  | evict _ | faults _ _ => []

def run (s : Service MemoryStore) : Call → Service MemoryStore
  | migrate now block target => ((Service.migrate MemoryStore.api now block target).run s).2
  | sweep clock now blocks => ((Service.sweep MemoryStore.api clock now blocks).run s).2
  | recordAccess now block => ((Service.recordAccess now block).run s).2
  | evict number => ((Service.evict number).run s).2
  | faults failWrites failReads => { s with store := { s.store with failWrites, failReads } }

def runAll (s : Service MemoryStore) (calls : List Call) : Service MemoryStore := calls.foldl run s

/-- All blocks that calls hand over. -/
def allBlocks (calls : List Call) : List Block := calls.flatMap blocks

end Call

/-- Blocks as a ledger without copies off the chain has them: no reference, and one payload for each number. -/
structure Consistent (blocks : List Block) : Prop where
  blob : ∀ b ∈ blocks, b.blob = none
  payload : ∀ b ∈ blocks, ∀ c ∈ blocks, b.number = c.number → b.payload = c.payload

section Runs

variable {payloads : Payloads} {deflate : Bytes → Bytes} {policy : Policy} {password : Option String}
  {s : Service MemoryStore}

/-- No call loses a payload. -/
theorem Intact.run (hs : Intact payloads deflate policy password s) (hdeflate : Deflate.IsEncoder deflate) (call : Call)
    (hblocks : ∀ b ∈ call.blocks, b.blob = none ∧ payloads b.number = some b.payload) :
    Intact payloads deflate policy password (call.run s) := by
  cases call with
  | migrate now block target =>
    obtain ⟨hblock, hknown⟩ := hblocks block List.mem_cons_self
    exact hs.migrate hdeflate hblock hknown now target
  | sweep clock now blocks => exact hs.sweep hdeflate hblocks clock now
  | recordAccess now block => exact hs.recordAccess (hblocks block List.mem_cons_self).2 now
  | evict number => exact hs.evict number
  | faults failWrites failReads => exact hs.faults failWrites failReads

private theorem Intact.runAll (hs : Intact payloads deflate policy password s) (hdeflate : Deflate.IsEncoder deflate)
    (calls : List Call)
    (hblocks : ∀ b ∈ Call.allBlocks calls, b.blob = none ∧ payloads b.number = some b.payload) :
    Intact payloads deflate policy password (Call.runAll s calls) := by
  induction calls generalizing s with
  | nil => exact hs
  | cons call calls ih =>
    refine ih (hs.run hdeflate call fun b hb => hblocks b ?_) fun b hb => hblocks b ?_
    · exact List.mem_append_left _ hb
    · exact List.mem_append_right _ hb

end Runs

end TieredLedger.Service
