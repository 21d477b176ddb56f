import TieredLedger.Tiering.Lock
import TieredLedger.Tiering.Service

/-! Tasks that run side by side: moves, evictions, accesses and sweeps as sequences of atomic steps. -/
namespace TieredLedger

structure World (σ : Type) where
  service : Service σ
  locks : Locks

inductive MovePhase
  | start
  | waiting (lock : Nat)
  | tracking (lock : Nat)
  | marking (lock : Nat) (access : Access)
  | asking (lock : Nat) (access : Access) (blob : BlobRef)
  | storing (lock : Nat) (access : Access)
  | fetching (lock : Nat) (access : Access) (blob : BlobRef)
  | committing (lock : Nat) (access : Access) (blob : Option BlobRef) (restored : Option UInt64)
  | counting (lock : Nat) (access : Access) (restored : Option UInt64)
  | settling (lock : Nat) (access : Access) (restored : Option UInt64)
  | failing (lock : Nat) (access : Access) (error : StoreError)
  | releasing (lock : Nat) (result : MoveResult)
  | dropping (lock : Nat) (result : MoveResult)
  | done (result : MoveResult)
deriving DecidableEq, Repr

inductive EvictPhase
  | start
  | waiting (lock : Nat)
  | evicting (lock : Nat)
  | releasing (lock : Nat) (evicted : Option Access)
  | forgetting (lock : Nat) (evicted : Option Access)
  | dropping (lock : Nat) (evicted : Option Access)
  | done (evicted : Option Access)
deriving DecidableEq, Repr

inductive SweepPhase
  | start (blocks : List Block)
  | choosing (rest : List Block) (report : SweepReport)
  | moving (rest : List Block) (report : SweepReport) (block : Block) (target : Tier) (phase : MovePhase)
  | done (report : SweepReport)
deriving DecidableEq, Repr

inductive Task
  | move (block : Block) (target : Tier) (phase : MovePhase)
  | evict (number : UInt64) (phase : EvictPhase)
  | access (block : Block) (result : Option Access)
  | sweep (now : Instant) (phase : SweepPhase)
deriving DecidableEq, Repr

namespace World

variable {σ : Type}

def onService {α : Type} (w : World σ) (act : StateM (Service σ) α) : α × World σ :=
  let (a, service) := act.run w.service
  (a, { w with service })

end World

namespace MovePhase

def seeTo (block : Block) (access : Access) (target : Tier) (lock : Nat) : MovePhase :=
  let known := Service.knownCopy block access
  if target.isColderThan access.tier then
    if !target.isOffChain then .committing lock access known none
    else
      match known with
      | some blob => .asking lock access blob
      | none => .storing lock access
  else if !access.tier.isOffChain || target.isOffChain then .committing lock access known none
  else
    match known with
    | some blob => .fetching lock access blob
    | none => .failing lock access (.missingReference block.number access.tier.name)

/-- The next step of a move. There is none when the move is over, or while somebody else holds the lock. -/
def step {σ : Type} (api : BlobStore σ) (clock : Instant) (block : Block) (target : Tier) (w : World σ) :
    MovePhase → Option (MovePhase × World σ)
  | start =>
    let (lock, locks) := w.locks.borrow block.number
    some (waiting lock, { w with locks })
  | waiting lock =>
    if w.locks.isLocked lock then none else some (tracking lock, { w with locks := w.locks.acquire lock })
  | tracking lock =>
    let (access, w) := w.onService (Service.track clock block)
    if access.tier = target then some (releasing lock ⟨block.number, access.tier, target, .alreadyThere⟩, w)
    else some (marking lock access, w)
  | marking lock access =>
    let (_, w) := w.onService (Service.setStatus block.number (.inProgress target))
    some (seeTo block access target lock, w)
  | asking lock access blob =>
    match w.onService (Service.onStore (api.contains blob.handle)) with
    | (.ok true, w) => some (committing lock access (some blob) none, w)
    | (.ok false, w) => some (storing lock access, w)
    | (.error error, w) => some (failing lock access error, w)
  | storing lock access =>
    let s := w.service
    match w.onService (Service.onStore (Service.relocate api s.deflate s.policy s.password clock block)) with
    | (.ok blob, w) => some (committing lock access (some blob) none, w)
    | (.error error, w) => some (failing lock access error, w)
  | fetching lock access blob =>
    match w.onService (Service.onStore (api.fetch clock blob.handle w.service.password)) with
    | (.ok stored, w) =>
      let size := UInt64.ofNat (Service.payloadOf blob stored).length
      some (committing lock access (some blob) (some size), w)
    | (.error error, w) => some (failing lock access error, w)
  | committing lock access blob restored =>
    match w.onService (Service.commit block.number target blob) with
    | (true, w) => some (counting lock access restored, w)
    | (false, w) => some (failing lock access (.untracked block.number), w)
  | counting lock access restored =>
    let (_, w) := w.onService Service.countMove
    some (settling lock access restored, w)
  | settling lock access restored =>
    let (_, w) := w.onService (Service.clearStatus block.number)
    some (releasing lock ⟨block.number, access.tier, target, .moved restored⟩, w)
  | failing lock access error =>
    let (result, w) := w.onService (Service.fail block access.tier target error)
    some (releasing lock result, w)
  | releasing lock result => some (dropping lock result, { w with locks := w.locks.release lock })
  | dropping lock result => some (done result, { w with locks := w.locks.giveBack lock })
  | done _ => none

end MovePhase

/-- The next step of an eviction. There is none when it is over, or while somebody else holds the lock. -/
def EvictPhase.step {σ : Type} (number : UInt64) (w : World σ) : EvictPhase → Option (EvictPhase × World σ)
  | start =>
    let (lock, locks) := w.locks.borrow number
    some (waiting lock, { w with locks })
  | waiting lock =>
    if w.locks.isLocked lock then none else some (evicting lock, { w with locks := w.locks.acquire lock })
  | evicting lock =>
    let (evicted, w) := w.onService (Service.evict number)
    some (releasing lock evicted, w)
  | releasing lock evicted => some (forgetting lock evicted, { w with locks := w.locks.release lock })
  | forgetting lock evicted => some (dropping lock evicted, { w with locks := w.locks.forget number })
  | dropping lock evicted => some (done evicted, { w with locks := w.locks.giveBack lock })
  | done _ => none

def SweepPhase.step {σ : Type} (api : BlobStore σ) (clock now : Instant) (w : World σ) :
    SweepPhase → Option (SweepPhase × World σ)
  | start blocks =>
    if w.service.policy.autoTiering then some (choosing blocks (.start blocks.length), w)
    else some (done .disabled, w)
  | choosing [] report => some (done { report with completed := true }, w)
  | choosing (block :: rest) report =>
    let (access, w) := w.onService (Service.track now block)
    let recommended := classify block access w.service.policy now
    if recommended = access.tier then some (choosing rest report, w)
    else some (moving rest report block recommended .start, w)
  | moving rest report _ _ (.done result) => some (choosing rest (report.record result), w)
  | moving rest report block target phase =>
    (phase.step api clock block target w).map fun (phase, w) => (moving rest report block target phase, w)
  | done _ => none

def Task.step {σ : Type} (api : BlobStore σ) (clock : Instant) (w : World σ) : Task → Option (Task × World σ)
  | move block target phase =>
    (phase.step api clock block target w).map fun (phase, w) => (.move block target phase, w)
  | evict number phase => (phase.step number w).map fun (phase, w) => (.evict number phase, w)
  | access block none =>
    let (result, w) := w.onService (Service.recordAccess clock block)
    some (.access block (some result), w)
  | access _ (some _) => none
  | sweep now phase => (phase.step api clock now w).map fun (phase, w) => (.sweep now phase, w)

def Task.runAlone {σ : Type} (api : BlobStore σ) (clock : Instant) (w : World σ) : Task → Task × World σ
  | move block target _ =>
    let (result, w) := w.onService (Service.migrate api clock block target)
    (.move block target (.done result), w)
  | evict number _ =>
    let (evicted, w) := w.onService (Service.evict number)
    (.evict number (.done evicted), w)
  | access block _ =>
    let (result, w) := w.onService (Service.recordAccess clock block)
    (.access block (some result), w)
  | sweep now (.start blocks) =>
    let (report, w) := w.onService (Service.sweep api clock now blocks)
    (.sweep now (.done report), w)
  | t => (t, w)

def Task.movePhase? : Task → Option MovePhase
  | move _ _ phase => some phase
  | sweep _ (.moving _ _ _ _ phase) => some phase
  | _ => none

def Task.awaited? (t : Task) : Option Nat :=
  match t with
  | evict _ (.waiting lock) => some lock
  | _ =>
    match t.movePhase? with
    | some (.waiting lock) => some lock
    | _ => none

def Task.isDone : Task → Bool
  | move _ _ (.done _) => true
  | evict _ (.done _) => true
  | access _ (some _) => true
  | sweep _ (.done _) => true
  | _ => false

end TieredLedger
