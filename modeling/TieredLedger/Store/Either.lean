import TieredLedger.Store.Directory
import TieredLedger.Store.Memory

/-! A store that is either in memory or in a directory. -/
namespace TieredLedger

inductive EitherStore
  | memory (s : MemoryStore)
  | directory (s : DirectoryStore)

namespace EitherStore

instance : Inhabited EitherStore := ⟨memory .empty⟩

def kind : EitherStore → StoreKind
  | memory _ => .memory
  | directory _ => .directory

def memory? : EitherStore → Option MemoryStore
  | memory s => some s
  | directory _ => none

def directory? : EitherStore → Option DirectoryStore
  | memory _ => none
  | directory s => some s

def choose {α : Type} (m : StoreM MemoryStore α) (d : StoreM DirectoryStore α) : StoreM EitherStore α := fun s =>
  match s with
  | memory s =>
    let (answer, s) := m.run s
    (answer, memory s)
  | directory s =>
    let (answer, s) := d.run s
    (answer, directory s)

def api : BlobStore EitherStore where
  contains handle := choose (MemoryStore.contains handle) (DirectoryStore.contains handle)
  put now data request := choose (MemoryStore.put now data request) (DirectoryStore.put now data request)
  fetch now handle password := choose (MemoryStore.fetch handle password) (DirectoryStore.fetch now handle password)

def size (handle : String) : StoreM EitherStore Nat :=
  choose (MemoryStore.size handle) (return (← DirectoryStore.size handle).toNat)

def delete (handle : String) : StoreM EitherStore Unit :=
  choose (MemoryStore.delete handle) (DirectoryStore.delete handle)

def verify (handle : String) : StoreM EitherStore Integrity :=
  choose (MemoryStore.verify handle) (DirectoryStore.verify handle)

def health : StoreM EitherStore Health := choose MemoryStore.health DirectoryStore.health

end EitherStore

end TieredLedger
