import TieredLedger.Store.Interface
import Std.Data.TreeMap

/-! A store in memory, which can be told to fail. -/
namespace TieredLedger

/-- Bytes in memory, the checksum they had when they were stored, and the digest of their password. -/
structure MemoryBlob where
  data : Bytes
  checksum : String
  passwordDigest : Option String
deriving DecidableEq, Repr

structure MemoryStore where
  blobs : Std.TreeMap String MemoryBlob
  failWrites : Bool
  failReads : Bool

namespace MemoryStore

def empty : MemoryStore := ⟨∅, false, false⟩

instance : Inhabited MemoryStore := ⟨empty⟩

def digestOf (password : String) : String := TieredLedger.checksum (Bytes.ofText password)

def blob (handle : String) : StoreM MemoryStore MemoryBlob := do
  match (← get).blobs[handle]? with
  | some b => return b
  | none => throw (.unknownHandle handle)

def contains (handle : String) : StoreM MemoryStore Bool := return (← get).blobs.contains handle

def put (now : Instant) (data : Bytes) (request : StoreRequest) : StoreM MemoryStore BlobRef := do
  if (← get).failWrites then throw .injectedWrite
  let checksum := TieredLedger.checksum data
  let handle := Handle.make request.hint checksum
  modify fun s => { s with blobs := s.blobs.insert handle ⟨data, checksum, request.password.map digestOf⟩ }
  return ⟨handle, checksum, UInt64.ofNat data.length, request.contentType, false, now⟩

/-- The bytes of a blob, if the password is the one they were stored with or if they were stored without one. -/
def fetch (handle : String) (password : Option String) : StoreM MemoryStore Bytes := do
  if (← get).failReads then throw .injectedRead
  let b ← blob handle
  match b.passwordDigest with
  | none => return b.data
  | some digest => if password.map digestOf = some digest then return b.data else throw (.wrongPassword handle)

def size (handle : String) : StoreM MemoryStore Nat := return (← blob handle).data.length

def delete (handle : String) : StoreM MemoryStore Unit := do
  let _ ← blob handle
  modify fun s => { s with blobs := s.blobs.erase handle }

def verify (handle : String) : StoreM MemoryStore Integrity := do
  let b ← blob handle
  return ⟨b.checksum, TieredLedger.checksum b.data⟩

def health : StoreM MemoryStore Health := return .good (← get).blobs.size

def corrupt (handle : String) (data : Bytes) : StoreM MemoryStore Unit := do
  let b ← blob handle
  modify fun s => { s with blobs := s.blobs.insert handle { b with data } }

def api : BlobStore MemoryStore := ⟨contains, put, fun _ => fetch⟩

end MemoryStore

end TieredLedger
