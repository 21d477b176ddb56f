import TieredLedger.Store.Memory

/-! What each call does to a store in memory. -/
namespace TieredLedger

namespace StoreM

variable {σ α β : Type}

/-- An action goes on where the one before it stopped, unless that failed. -/
theorem run_bind (x : StoreM σ α) (f : α → StoreM σ β) (s : σ) : (x >>= f).run s =
    match x.run s with
    | (.ok a, s') => (f a).run s'
    | (.error e, s') => (.error e, s') := by
  change (match x.run s with | (a, s') => (ExceptT.bindCont f a : StateM σ _) s') = _
  cases x.run s with
  | mk answer s' => cases answer <;> rfl

end StoreM

namespace MemoryStore

variable {handle : String} {password : Option String} {store : MemoryStore} {b : MemoryBlob} {now : Instant}
  {data : Bytes} {request : StoreRequest}

/-- A blob is there if its handle has an entry. -/
theorem run_contains : (contains handle).run store = (.ok (store.blobs.contains handle), store) := rfl

def blobFor (data : Bytes) (password : Option String) : MemoryBlob :=
  ⟨data, TieredLedger.checksum data, password.map digestOf⟩

/-- Nothing is stored while writes fail. -/
theorem run_put_of_failWrites (h : store.failWrites = true) :
    (put now data request).run store = (.error .injectedWrite, store) := by
  obtain ⟨blobs, failWrites, failReads⟩ := store
  cases h
  rfl

/-- What is stored goes under its handle, in place of anything there. -/
theorem run_put (h : store.failWrites = false) :
    (put now data request).run store =
      (.ok ⟨Handle.make request.hint (checksum data), checksum data, UInt64.ofNat data.length, request.contentType,
          false, now⟩,
        { store with
          blobs := store.blobs.insert (Handle.make request.hint (checksum data)) (blobFor data request.password) }) := by
  obtain ⟨blobs, failWrites, failReads⟩ := store
  cases h
  rfl

/-- Nothing is fetched while reads fail. -/
theorem run_fetch_of_failReads (h : store.failReads = true) :
    (fetch handle password).run store = (.error .injectedRead, store) := by
  obtain ⟨blobs, failWrites, failReads⟩ := store
  cases h
  rfl

/-- The password that bytes were stored with gets them back. -/
theorem run_fetch (h : store.failReads = false) (hblob : store.blobs[handle]? = some (blobFor data password)) :
    (fetch handle password).run store = (.ok data, store) := by
  have hget : (get : StoreM MemoryStore MemoryStore).run store = (.ok store, store) := rfl
  have hfound : (blob handle).run store = (.ok (blobFor data password), store) := by
    rw [blob, StoreM.run_bind, hget]
    simp only [hblob]
    rfl
  rw [fetch, StoreM.run_bind, hget]
  simp only [h, Bool.false_eq_true, if_false, StoreM.run_bind, hfound]
  cases password with
  | none => rfl
  | some p =>
    simp only [blobFor, Option.map_some, if_true]
    rfl

def found (store : MemoryStore) (handle : String) : Except StoreError MemoryBlob :=
  match store.blobs[handle]? with
  | some b => .ok b
  | none => .error (.unknownHandle handle)

/-- A handle with an entry is known. -/
theorem found_of_some (h : store.blobs[handle]? = some b) : store.found handle = .ok b := by
  rw [found, h]

/-- A handle without an entry is unknown. -/
theorem found_of_none (h : store.blobs[handle]? = none) : store.found handle = .error (.unknownHandle handle) := by
  rw [found, h]

private theorem run_blob : (blob handle).run store = (store.found handle, store) := by
  have hget : (get : StoreM MemoryStore MemoryStore).run store = (.ok store, store) := rfl
  rw [blob, StoreM.run_bind, hget, found]
  simp only
  cases store.blobs[handle]? <;> rfl

def opened (b : MemoryBlob) (handle : String) (password : Option String) : Except StoreError Bytes :=
  match b.passwordDigest with
  | none => .ok b.data
  | some digest => if password.map digestOf = some digest then .ok b.data else .error (.wrongPassword handle)

/-- A fetch finds the blob and opens it with the password. -/
theorem run_fetch_eq (h : store.failReads = false) : (fetch handle password).run store =
    ((store.found handle).bind fun b => opened b handle password, store) := by
  have hget : (get : StoreM MemoryStore MemoryStore).run store = (.ok store, store) := rfl
  rw [fetch, StoreM.run_bind, hget]
  simp only [h, Bool.false_eq_true, if_false, StoreM.run_bind, run_blob]
  cases store.found handle with
  | error e => rfl
  | ok b =>
    simp only [Except.bind, opened]
    cases b.passwordDigest with
    | none => rfl
    | some digest =>
      simp only
      split <;> rfl

/-- A fetch changes nothing. -/
theorem run_fetch_snd : ((fetch handle password).run store).2 = store := by
  cases hreads : store.failReads with
  | false => rw [run_fetch_eq hreads]
  | true => rw [run_fetch_of_failReads hreads]

/-- The size of a blob is the number of its bytes. -/
theorem run_size : (size handle).run store = ((store.found handle).map fun b => b.data.length, store) := by
  rw [size, StoreM.run_bind, run_blob]
  cases store.found handle <;> rfl

/-- A removal takes the entry of a handle that is known. -/
theorem run_delete : (delete handle).run store =
    match store.found handle with
    | .ok _ => (.ok (), { store with blobs := store.blobs.erase handle })
    | .error e => (.error e, store) := by
  rw [delete, StoreM.run_bind, run_blob]
  cases store.found handle <;> rfl

/-- A check sets the checksum from the time of storing against that of the bytes. -/
theorem run_verify : (verify handle).run store =
    ((store.found handle).map fun b => ⟨b.checksum, TieredLedger.checksum b.data⟩, store) := by
  rw [verify, StoreM.run_bind, run_blob]
  cases store.found handle <;> rfl

end MemoryStore

end TieredLedger
