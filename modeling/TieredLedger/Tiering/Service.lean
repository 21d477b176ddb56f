import TieredLedger.Compression
import TieredLedger.Search
import TieredLedger.Statistics
import TieredLedger.Store.Interface
import TieredLedger.Tiering.Result

/-! Tiering: moving the payloads of blocks between the ledger and an off-chain store. -/
namespace TieredLedger

structure Service (σ : Type) where
  /-- Writes the streams of compressed payloads. -/
  deflate : Bytes → Bytes
  policy : Policy
  /-- The password that seals payloads off the chain. -/
  password : Option String
  store : σ
  tracker : Tracker
  /-- How many moves went well. -/
  migrations : UInt64
  /-- Moves that go on or went wrong, by block number. -/
  status : Std.TreeMap UInt64 MoveStatus

namespace Service

variable {σ : Type}

def create (deflate : Bytes → Bytes) (policy : Policy) (password : Option String) (store : σ) : Service σ :=
  ⟨deflate, policy, password, store, .empty, 0, ∅⟩

def onStore {α : Type} (act : StoreM σ α) : StateM (Service σ) (Except StoreError α) := fun s =>
  let (answer, store) := act.run s.store
  (answer, { s with store })

def track (now : Instant) (block : Block) : StateM (Service σ) Access := fun s =>
  let (access, tracker) := s.tracker.getOrCreate block.number block.payloadSize s.policy now
  (access, { s with tracker })

def setStatus (number : UInt64) (status : MoveStatus) : StateM (Service σ) Unit :=
  modify fun s => { s with status := s.status.insert number status }

def clearStatus (number : UInt64) : StateM (Service σ) Unit :=
  modify fun s => { s with status := s.status.erase number }

def commit (number : UInt64) (tier : Tier) (blob : Option BlobRef) : StateM (Service σ) Bool := fun s =>
  let (done, tracker) := s.tracker.commit number tier blob
  (done, { s with tracker })

def countMove : StateM (Service σ) Unit := modify fun s => { s with migrations := s.migrations + 1 }

def knownCopy (block : Block) (access : Access) : Option BlobRef := access.blob.or block.blob

def pack (deflate : Bytes → Bytes) (policy : Policy) (block : Block) : Compression.Packed :=
  if policy.compressOnCold then Compression.compress deflate block.payload else Compression.raw block.payload

def storeRequest (password : Option String) (block : Block) (packed : Compression.Packed) : StoreRequest :=
  { StoreRequest.ofType packed.contentType with
    password := password
    hint := some s!"block-{block.number}" }

def relocate (api : BlobStore σ) (deflate : Bytes → Bytes) (policy : Policy) (password : Option String) (now : Instant)
    (block : Block) : StoreM σ BlobRef := do
  let packed := pack deflate policy block
  let blob ← api.put now packed.bytes (storeRequest password block packed)
  return { blob with compressed := packed.compressed }

/-- The payload that stored bytes stand for. Bytes that cannot be decompressed stand for themselves. -/
def payloadOf (blob : BlobRef) (stored : Bytes) : Bytes :=
  if blob.compressed then (Compression.decompress stored).toOption.getD stored else stored

/-- Sees to the payload of a block that becomes colder: off the chain it needs a copy in the store, which may be
there already. -/
def cool (api : BlobStore σ) (deflate : Bytes → Bytes) (policy : Policy) (password : Option String) (now : Instant)
    (block : Block) (access : Access) (target : Tier) : StoreM σ (Option BlobRef) := do
  if !target.isOffChain then return knownCopy block access
  match knownCopy block access with
  | none => return some (← relocate api deflate policy password now block)
  | some blob =>
    if ← api.contains blob.handle then return some blob
    return some (← relocate api deflate policy password now block)

/-- Sees to the payload of a block that becomes warmer: back on the chain it has to be fetched. The size of what was
fetched is given too. -/
def warm (api : BlobStore σ) (password : Option String) (now : Instant) (block : Block) (access : Access)
    (target : Tier) : StoreM σ (Option BlobRef × Option UInt64) := do
  if !access.tier.isOffChain || target.isOffChain then return (knownCopy block access, none)
  match knownCopy block access with
  | none => throw (.missingReference block.number access.tier.name)
  | some blob =>
    let stored ← api.fetch now blob.handle password
    return (some blob, some (UInt64.ofNat (payloadOf blob stored).length))

def carry (api : BlobStore σ) (deflate : Bytes → Bytes) (policy : Policy) (password : Option String) (now : Instant)
    (block : Block) (access : Access) (target : Tier) : StoreM σ (Option BlobRef × Option UInt64) := do
  if target.isColderThan access.tier then
    return (← cool api deflate policy password now block access target, none)
  warm api password now block access target

def fail (block : Block) (origin target : Tier) (error : StoreError) : StateM (Service σ) MoveResult := do
  setStatus block.number (.failed error)
  return ⟨block.number, origin, target, .failed error⟩

/-- Moves a block to a tier. Whatever goes wrong becomes a result, and the block stays where it was. -/
def migrate (api : BlobStore σ) (now : Instant) (block : Block) (target : Tier) : StateM (Service σ) MoveResult := do
  let access ← track now block
  if access.tier = target then return ⟨block.number, access.tier, target, .alreadyThere⟩
  setStatus block.number (.inProgress target)
  let s ← get
  match ← onStore (carry api s.deflate s.policy s.password now block access target) with
  | .error error => fail block access.tier target error
  | .ok (blob, restored) =>
    if ← commit block.number target blob then
      countMove
      clearStatus block.number
      return ⟨block.number, access.tier, target, .moved restored⟩
    else fail block access.tier target (.untracked block.number)

def recordAccess (now : Instant) (block : Block) : StateM (Service σ) Access := fun s =>
  let (access, tracker) := s.tracker.recordAccess block.number block.payloadSize s.policy now
  (access, { s with tracker })

def evict (number : UInt64) : StateM (Service σ) (Option Access) := fun s =>
  let (access, tracker) := s.tracker.evict number
  (access, { s with tracker })

def blockOf (source : BlockSource) (number : UInt64) : Except StoreError Block :=
  match source.find number with
  | .error e => .error (.ledger e)
  | .ok none => .error (.unknownBlock number)
  | .ok (some block) => .ok block

def blocksOf (source : BlockSource) : Except StoreError (List Block) := source.all.mapError .ledger

def request (api : BlobStore σ) (now : Instant) (source : BlockSource) (number : UInt64) (target : Tier) :
    StateM (Service σ) (Except StoreError MoveResult) := do
  match blockOf source number with
  | .error e => return .error e
  | .ok block => return .ok (← migrate api now block target)

/-- Moves a block if it is in another tier than the recommended one, and adds the result to a report. -/
def sweepBlock (api : BlobStore σ) (clock now : Instant) (report : SweepReport) (block : Block) :
    StateM (Service σ) SweepReport := do
  let access ← track now block
  let recommended := classify block access (← get).policy now
  if recommended = access.tier then return report
  return report.record (← migrate api clock block recommended)

def sweep (api : BlobStore σ) (clock now : Instant) (blocks : List Block) : StateM (Service σ) SweepReport := do
  if !(← get).policy.autoTiering then return .disabled
  let report ← blocks.foldlM (sweepBlock api clock now) (.start blocks.length)
  return { report with completed := true }

def sweepSource (api : BlobStore σ) (now : Instant) (source : BlockSource) :
    StateM (Service σ) (Except StoreError SweepReport) := do
  match blocksOf source with
  | .error e => return .error e
  | .ok blocks => return .ok (← sweep api now now blocks)

def statusOf (s : Service σ) (number : UInt64) : Option MoveStatus := s.status[number]?

def inProgress (s : Service σ) : List (UInt64 × MoveStatus) := s.status.toList

def clearFailed (s : Service σ) : Service σ := { s with status := s.status.filter fun _ m => !m.isFailed }

def statistics (s : Service σ) (now : Instant) : Except StoreError Statistics :=
  Statistics.compute s.tracker.snapshot s.migrations now

def hints (s : Service σ) (now : Instant) : Except StoreError (List String) :=
  (s.statistics now).map fun stats => stats.hints s.policy

end Service

end TieredLedger
