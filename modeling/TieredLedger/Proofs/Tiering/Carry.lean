import TieredLedger.Proofs.Compression
import TieredLedger.Proofs.Store.Handle
import TieredLedger.Proofs.Store.Memory
import TieredLedger.Tiering.Service

/-! What the payload of a block goes through on its way to another tier, over a store in memory: no payload that the
store has is lost, and the reference that comes out leads to the payload of the block. -/
namespace TieredLedger

/-- A tier on the chain is not colder than one off the chain. -/
theorem Tier.not_colder_of_onChain {t target : Tier} (ht : t.isOffChain = true) (htarget : target.isOffChain = false) :
    target.isColderThan t = false := by
  revert ht htarget
  cases t <;> cases target <;> decide

private theorem Tier.isOffChain_of_not_colder {t target : Tier} (hcolder : target.isColderThan t = false)
    (htarget : target.isOffChain = true) : t.isOffChain = true := by
  revert hcolder htarget
  cases t <;> cases target <;> decide

namespace Service

def packed (deflate : Bytes → Bytes) (policy : Policy) (payload : Bytes) : Compression.Packed :=
  if policy.compressOnCold then Compression.compress deflate payload else Compression.raw payload

def copyHandle (deflate : Bytes → Bytes) (policy : Policy) (number : UInt64) (payload : Bytes) : String :=
  Handle.make (some (Handle.blockHint number)) (checksum (packed deflate policy payload).bytes)

/-- A store has the payload of a block, and a reference says where and in which form. -/
structure Keeps (deflate : Bytes → Bytes) (policy : Policy) (password : Option String) (store : MemoryStore)
    (number : UInt64) (payload : Bytes) (ref : BlobRef) : Prop where
  handle : ref.handle = copyHandle deflate policy number payload
  compressed : ref.compressed = policy.compressOnCold
  stored : store.blobs[copyHandle deflate policy number payload]? =
    some (MemoryStore.blobFor (packed deflate policy payload).bytes password)

variable {deflate : Bytes → Bytes} {policy : Policy} {password : Option String} {store : MemoryStore} {number : UInt64}
  {payload : Bytes} {ref : BlobRef}

/-- The payload that a reference stands for is the payload of the block. -/
theorem payload_packed (hdeflate : Deflate.IsEncoder deflate) (payload : Bytes)
    (h : ref.compressed = policy.compressOnCold) :
    (if ref.compressed then Compression.decompress (packed deflate policy payload).bytes
      else .ok (packed deflate policy payload).bytes) = .ok payload := by
  rw [h, packed]
  split
  · exact Compression.decompress_compress hdeflate payload
  · rfl

private theorem payloadOf_packed (hdeflate : Deflate.IsEncoder deflate) (payload : Bytes)
    (h : ref.compressed = policy.compressOnCold) :
    payloadOf ref (packed deflate policy payload).bytes = payload := by
  have hpayload := payload_packed hdeflate payload h
  rw [payloadOf]
  split
  · next hcompressed =>
    rw [if_pos hcompressed] at hpayload
    rw [hpayload]
    rfl
  · next hraw =>
    rw [if_neg hraw] at hpayload
    exact Except.ok.inj hpayload

/-- Another block has another handle, whatever its payload. -/
theorem number_eq_of_copyHandle_eq {m n : UInt64} {p q : Bytes}
    (h : copyHandle deflate policy m p = copyHandle deflate policy n q) :
    m = n :=
  Handle.number_eq_of_make_eq (Handle.suffixLength_le_checksum _) (Handle.suffixLength_le_checksum _) h

abbrev Payloads := UInt64 → Option Bytes

private theorem Keeps.contains (h : Keeps deflate policy password store number payload ref) :
    store.blobs.contains ref.handle = true := by
  rw [Std.TreeMap.contains_eq_isSome_getElem?, h.handle, h.stored]
  rfl

/-- Storing the payload of one block leaves all others in place. -/
theorem Keeps.insert {payloads : Payloads} {m : UInt64} {p : Bytes} (hm : payloads m = some p)
    (hn : payloads number = some payload) (h : Keeps deflate policy password store number payload ref) :
    Keeps deflate policy password { store with
      blobs := store.blobs.insert (copyHandle deflate policy m p)
        (MemoryStore.blobFor (packed deflate policy p).bytes password) }
      number payload ref := by
  refine ⟨h.handle, h.compressed, ?_⟩
  rw [Std.TreeMap.getElem?_insert]
  split
  · next heq =>
    have hnumber := number_eq_of_copyHandle_eq (Std.LawfulEqCmp.compare_eq_iff_eq.1 heq)
    subst hnumber
    rw [hm, Option.some.injEq] at hn
    rw [hn]
  · exact h.stored

section Carrying

variable {payloads : Payloads} {block : Block} {access : Access} {target : Tier} {now : Instant}
  {answer : Except StoreError (Option BlobRef × Option UInt64)}

/-- What seeing to the payload of a block comes to: nothing that was kept is lost, and the reference is good. -/
structure Carried (payloads : Payloads) (deflate : Bytes → Bytes) (policy : Policy) (password : Option String)
    (store after : MemoryStore) (block : Block) (target : Tier)
    (answer : Except StoreError (Option BlobRef × Option UInt64)) : Prop where
  keeps : ∀ n p ref, payloads n = some p →
    Keeps deflate policy password store n p ref → Keeps deflate policy password after n p ref
  off : ∀ blob restored, answer = .ok (blob, restored) → target.isOffChain = true → blob.isSome = true
  refers : ∀ blob restored, answer = .ok (blob, restored) →
    ∀ ref ∈ blob, Keeps deflate policy password after block.number block.payload ref

private theorem Carried.error {e : StoreError} :
    Carried payloads deflate policy password store store block target (.error e) :=
  ⟨fun _ _ _ _ h => h, fun _ _ h => (by cases h), fun _ _ h => (by cases h)⟩

private theorem Carried.reused {blob : Option BlobRef} {restored : Option UInt64}
    (hoff : target.isOffChain = true → blob.isSome = true)
    (hrefs : ∀ ref ∈ blob, Keeps deflate policy password store block.number block.payload ref) :
    Carried payloads deflate policy password store store block target (.ok (blob, restored)) := by
  refine ⟨fun _ _ _ _ h => h, fun _ _ h => ?_, fun _ _ h => ?_⟩
  · cases h
    exact hoff
  · cases h
    exact hrefs

/-- Storing a payload either fails and leaves the store alone, or keeps the payload. -/
theorem relocate_cases (hknown : payloads block.number = some block.payload) :
    (relocate MemoryStore.api deflate policy password now block).run store = (.error .injectedWrite, store) ∨
      ∃ ref after, (relocate MemoryStore.api deflate policy password now block).run store = (.ok ref, after) ∧
        Keeps deflate policy password after block.number block.payload ref ∧
        ∀ n p ref, payloads n = some p →
          Keeps deflate policy password store n p ref → Keeps deflate policy password after n p ref := by
  cases hwrites : store.failWrites with
  | true =>
    left
    rw [relocate, StoreM.run_bind]
    simp only [MemoryStore.api, MemoryStore.run_put_of_failWrites hwrites]
  | false =>
    right
    rw [relocate, StoreM.run_bind]
    simp only [MemoryStore.api, MemoryStore.run_put hwrites]
    refine ⟨_, _, rfl, ⟨rfl, ?_, ?_⟩, fun n p ref hn h => h.insert hknown hn⟩
    · change (pack deflate policy block).compressed = policy.compressOnCold
      rw [pack]
      cases policy.compressOnCold <;> rfl
    · exact Std.TreeMap.getElem?_insert_self

/-- A payload that does not come back to the chain keeps the copy that is known of, and nothing is asked of the store. -/
theorem run_warm_stay {σ : Type} {api : BlobStore σ}
    (hstay : access.tier.isOffChain = false ∨ target.isOffChain = true) (store : σ) :
    (warm api password now block access target).run store = (.ok (knownCopy block access, none), store) := by
  rw [warm]
  rcases hstay with hstay | hstay
  · rw [hstay]
    rfl
  · rw [hstay, Bool.or_true]
    rfl

/-- For a block without a reference, the record tells of the copy. -/
theorem knownCopy_of_none (hblock : block.blob = none) : knownCopy block access = access.blob := by
  rw [knownCopy, hblock, Option.or_none]

variable (hblock : block.blob = none)
  (hrefs : ∀ ref ∈ access.blob, Keeps deflate policy password store block.number block.payload ref)
include hblock hrefs

/-- A payload that cools is stored unless a copy is there. -/
theorem run_cool : (cool MemoryStore.api deflate policy password now block access target).run store =
    if target.isOffChain = true ∧ access.blob = none then
      match (relocate MemoryStore.api deflate policy password now block).run store with
      | (.ok ref, after) => (.ok (some ref), after)
      | (.error e, after) => (.error e, after)
    else (.ok access.blob, store) := by
  rw [cool, knownCopy_of_none hblock]
  cases hoff : target.isOffChain with
  | false => rfl
  | true =>
    cases hblob : access.blob with
    | none =>
      simp only [Bool.not_true, Bool.false_eq_true, if_false, StoreM.run_bind, and_self, if_true]
      cases (relocate MemoryStore.api deflate policy password now block).run store with
      | mk answer after => cases answer <;> rfl
    | some ref =>
      simp only [Bool.not_true, Bool.false_eq_true, if_false, StoreM.run_bind, MemoryStore.api, MemoryStore.run_contains,
        (hrefs ref hblob).contains]
      rfl

/-- A payload that comes back to the chain is fetched, unless reads fail. -/
theorem run_warm_back (hdeflate : Deflate.IsEncoder deflate) (hoff : access.tier.isOffChain = true)
    (hback : target.isOffChain = false) (href : access.blob = some ref) :
    (warm MemoryStore.api password now block access target).run store =
      if store.failReads = true then (.error .injectedRead, store)
      else (.ok (access.blob, some block.payloadSize), store) := by
  have hknown : knownCopy block access = some ref := (knownCopy_of_none hblock).trans href
  have hkeeps := hrefs ref href
  have hsize : UInt64.ofNat (payloadOf ref (packed deflate policy block.payload).bytes).length = block.payloadSize := by
    rw [payloadOf_packed hdeflate _ hkeeps.compressed, Block.payload, Bytes.length_ofText]
    rfl
  rw [warm, hoff, hback, hknown, href]
  simp only [Bool.not_true, Bool.or_self, Bool.false_eq_true, if_false, StoreM.run_bind]
  cases hreads : store.failReads with
  | true =>
    simp only [MemoryStore.api, MemoryStore.run_fetch_of_failReads hreads, if_true]
  | false =>
    have hfetch := MemoryStore.run_fetch hreads hkeeps.stored
    rw [← hkeeps.handle] at hfetch
    simp only [MemoryStore.api, hfetch, hsize, Bool.false_eq_true, if_false]
    rfl

/-- Cooling loses nothing. -/
theorem carried_cool (now : Instant) (target : Tier) (hknown : payloads block.number = some block.payload) :
    Carried payloads deflate policy password store
      ((cool MemoryStore.api deflate policy password now block access target).run store).2 block target
      (((cool MemoryStore.api deflate policy password now block access target).run store).1.map
        fun blob => (blob, none)) := by
  rw [run_cool hblock hrefs]
  by_cases hmissing : target.isOffChain = true ∧ access.blob = none
  · rw [if_pos hmissing]
    rcases relocate_cases hknown with hfail | ⟨ref, after, hrun, hkeeps, hmono⟩
    · rw [hfail]
      exact .error
    · rw [hrun]
      refine ⟨hmono, fun _ _ h _ => ?_, fun _ _ h => ?_⟩
      · cases h
        rfl
      · cases h
        rintro _ ⟨⟩
        exact hkeeps
  · rw [if_neg hmissing]
    refine .reused (fun htarget => ?_) hrefs
    rw [Option.isSome_iff_ne_none]
    exact fun hnone => hmissing ⟨htarget, hnone⟩

/-- Warming loses nothing: the copy in the store stays, and so does the reference to it. -/
theorem carried_warm (hdeflate : Deflate.IsEncoder deflate) (now : Instant)
    (hcolder : target.isColderThan access.tier = false)
    (hoff : access.tier.isOffChain = true → access.blob.isSome = true) :
    Carried payloads deflate policy password store
      ((warm MemoryStore.api password now block access target).run store).2 block target
      ((warm MemoryStore.api password now block access target).run store).1 := by
  by_cases hstay : access.tier.isOffChain = false ∨ target.isOffChain = true
  · rw [run_warm_stay hstay store, knownCopy_of_none hblock]
    exact .reused (fun htarget => hoff (Tier.isOffChain_of_not_colder hcolder htarget)) hrefs
  · rw [not_or, Bool.not_eq_false, Bool.not_eq_true] at hstay
    obtain ⟨ref, href⟩ := Option.isSome_iff_exists.1 (hoff hstay.1)
    rw [run_warm_back hblock hrefs hdeflate hstay.1 hstay.2 href]
    split
    · exact .error
    · exact .reused (fun htarget => hoff hstay.1) hrefs

/-- Seeing to the payload of a block loses nothing. -/
theorem carried (hdeflate : Deflate.IsEncoder deflate) (now : Instant) (target : Tier)
    (hknown : payloads block.number = some block.payload)
    (hoff : access.tier.isOffChain = true → access.blob.isSome = true) :
    Carried payloads deflate policy password store
      ((carry MemoryStore.api deflate policy password now block access target).run store).2 block target
      ((carry MemoryStore.api deflate policy password now block access target).run store).1 := by
  rw [carry]
  cases hcolder : target.isColderThan access.tier with
  | true =>
    have hcool := carried_cool hblock hrefs now target hknown
    simp only [if_true, StoreM.run_bind]
    generalize (cool MemoryStore.api deflate policy password now block access target).run store = result at hcool ⊢
    obtain ⟨answer, after⟩ := result
    cases answer with
    | error e => exact hcool
    | ok blob => exact hcool
  | false =>
    simp only [Bool.false_eq_true, if_false]
    exact carried_warm hblock hrefs hdeflate now hcolder hoff

end Carrying

end Service

end TieredLedger
