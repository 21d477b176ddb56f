import TieredLedger.Proofs.Store.Memory
import TieredLedger.Store.Directory

/-! Calls of an off-chain store, one after another, with their answers. -/
namespace TieredLedger

structure OffChainStore (σ : Type) extends BlobStore σ where
  size : String → StoreM σ UInt64
  delete : String → StoreM σ Unit
  verify : String → StoreM σ Integrity
  health : StoreM σ Health

namespace OffChainStore

def memory : OffChainStore MemoryStore where
  toBlobStore := MemoryStore.api
  size handle := return UInt64.ofNat (← MemoryStore.size handle)
  delete := MemoryStore.delete
  verify := MemoryStore.verify
  health := MemoryStore.health

def directory : OffChainStore DirectoryStore where
  toBlobStore := DirectoryStore.api
  size := DirectoryStore.size
  delete := DirectoryStore.delete
  verify := DirectoryStore.verify
  health := DirectoryStore.health

inductive Call
  | put (now : Instant) (data : Bytes) (request : StoreRequest)
  | fetch (now : Instant) (handle : String) (password : Option String)
  | contains (handle : String)
  | size (handle : String)
  | delete (handle : String)
  | verify (handle : String)
  | health

def Call.handle? : Call → Option String
  | put _ _ _ | health => none
  | fetch _ handle _ | contains handle | size handle | delete handle | verify handle => some handle

inductive Answer
  | ref (r : BlobRef)
  | bytes (data : Bytes)
  | truth (b : Bool)
  | size (n : UInt64)
  | done
  | integrity (i : Integrity)
  | health (h : Health)
deriving DecidableEq

variable {σ : Type} (api : OffChainStore σ)

def run : Call → StoreM σ Answer
  | .put now data request => return .ref (← api.put now data request)
  | .fetch now handle password => return .bytes (← api.fetch now handle password)
  | .contains handle => return .truth (← api.contains handle)
  | .size handle => return .size (← api.size handle)
  | .delete handle => do
    api.delete handle
    return .done
  | .verify handle => return .integrity (← api.verify handle)
  | .health => return .health (← api.health)

def runAll : List Call → σ → List (Except StoreError Answer) × σ
  | [], s => ([], s)
  | call :: rest, s =>
    let (answer, s) := (api.run call).run s
    let (answers, s) := runAll rest s
    (answer :: answers, s)

private theorem run_map {α β : Type} (x : StoreM σ α) (f : α → β) (s : σ) :
    (do return f (← x) : StoreM σ β).run s = ((x.run s).1.map f, (x.run s).2) := by
  rw [StoreM.run_bind]
  rcases x.run s with ⟨_ | _, _⟩ <;> rfl

variable {now : Instant} {data : Bytes} {request : StoreRequest} {handle : String} {password : Option String} {s : σ}

theorem run_put : (api.run (.put now data request)).run s =
    (((api.put now data request).run s).1.map .ref, ((api.put now data request).run s).2) :=
  run_map _ _ _

theorem run_fetch : (api.run (.fetch now handle password)).run s =
    (((api.fetch now handle password).run s).1.map .bytes, ((api.fetch now handle password).run s).2) :=
  run_map _ _ _

theorem run_contains : (api.run (.contains handle)).run s =
    (((api.contains handle).run s).1.map .truth, ((api.contains handle).run s).2) :=
  run_map _ _ _

theorem run_size : (api.run (.size handle)).run s =
    (((api.size handle).run s).1.map .size, ((api.size handle).run s).2) :=
  run_map _ _ _

/-- The size of a blob in memory is given as a word. -/
theorem run_memory_size {m : MemoryStore} :
    (memory.size handle).run m = ((m.found handle).map fun b => UInt64.ofNat b.data.length, m) := by
  refine (run_map _ _ _).trans ?_
  rw [MemoryStore.run_size]
  cases m.found handle <;> rfl

theorem run_delete : (api.run (.delete handle)).run s =
    (((api.delete handle).run s).1.map fun _ => .done, ((api.delete handle).run s).2) :=
  run_map _ _ _

theorem run_verify : (api.run (.verify handle)).run s =
    (((api.verify handle).run s).1.map .integrity, ((api.verify handle).run s).2) :=
  run_map _ _ _

theorem run_health : (api.run .health).run s = ((api.health.run s).1.map .health, (api.health.run s).2) :=
  run_map _ _ _

/-- Calls are made one after another, each in the state that the one before it left. -/
theorem runAll_cons (call : Call) (rest : List Call) (s : σ) : api.runAll (call :: rest) s =
    (((api.run call).run s).1 :: (api.runAll rest ((api.run call).run s).2).1,
      (api.runAll rest ((api.run call).run s).2).2) := rfl

end OffChainStore

end TieredLedger
