import TieredLedger.Proofs.Tiering.Atomicity

/-! A payload that was moved off the chain has a live copy in the store, whatever was tracked and stored before. The one
exception is the way back from the archive, on which nobody looks for the copy. -/
namespace TieredLedger

private theorem Tier.ne_archive_of_colder {t target : Tier} (hcolder : target.isColderThan t = true) :
    t ≠ .archive := by
  rintro rfl
  revert hcolder
  cases target <;> decide

private theorem Tier.eq_archive_of_not_colder {t target : Tier} (hcolder : target.isColderThan t = false)
    (htarget : target.isOffChain = true) (hne : t ≠ target) : t = .archive := by
  revert hcolder htarget hne
  cases t <;> cases target <;> decide

namespace Service

variable {deflate : Bytes → Bytes} {policy : Policy} {password : Option String} {store after : MemoryStore} {now : Instant}
  {block : Block} {access : Access} {target : Tier} {copy : Option BlobRef} {s : Service MemoryStore}

/-- There is a reference, and the store has something under its handle. -/
def IsLive (store : MemoryStore) (copy : Option BlobRef) : Prop :=
  ∃ ref, copy = some ref ∧ (MemoryStore.contains ref.handle).run store = (.ok true, store)

/-- The record of a block has a live copy. -/
def HasLiveCopy (s : Service MemoryStore) (number : UInt64) : Prop :=
  ∃ access, s.tracker.get? number = some access ∧ IsLive s.store access.blob

/-- What was just stored is in the store. -/
theorem isLive_of_relocate
    (h : (do return some (← relocate MemoryStore.api deflate policy password now block) :
      StoreM MemoryStore (Option BlobRef)).run store = (.ok copy, after)) : IsLive after copy := by
  rw [StoreM.run_bind, relocate, StoreM.run_bind] at h
  cases hwrites : store.failWrites with
  | true =>
    simp only [MemoryStore.api, MemoryStore.run_put_of_failWrites hwrites] at h
    cases h
  | false =>
    simp only [MemoryStore.api, MemoryStore.run_put hwrites] at h
    cases h
    refine ⟨_, rfl, ?_⟩
    rw [MemoryStore.run_contains, Std.TreeMap.contains_insert_self]

/-- Off the chain a payload that cools has a copy that was found or that was made. -/
theorem isLive_of_cool (hoff : target.isOffChain = true)
    (h : (cool MemoryStore.api deflate policy password now block access target).run store = (.ok copy, after)) :
    IsLive after copy := by
  rw [cool, hoff] at h
  cases hknown : knownCopy block access with
  | none =>
    rw [hknown] at h
    exact isLive_of_relocate h
  | some ref =>
    rw [hknown] at h
    simp only [Bool.not_true, Bool.false_eq_true, if_false, StoreM.run_bind, MemoryStore.api, MemoryStore.run_contains] at h
    split at h
    · next hthere =>
      cases h
      exact ⟨ref, rfl, by rw [MemoryStore.run_contains, hthere]⟩
    · exact isLive_of_relocate h

private theorem isLive_carry_iff {restored : Option UInt64} (hoff : target.isOffChain = true)
    (hne : access.tier ≠ target)
    (h : (carry MemoryStore.api deflate policy password now block access target).run store = (.ok (copy, restored), after)) :
    IsLive after copy ↔ (access.tier = .archive → IsLive store (knownCopy block access)) := by
  rw [carry] at h
  cases hcolder : target.isColderThan access.tier with
  | true =>
    rw [hcolder, if_pos rfl, StoreM.run_bind] at h
    have hnot := Tier.ne_archive_of_colder hcolder
    split at h
    · next hcool =>
      cases h
      exact iff_of_true (isLive_of_cool hoff hcool) fun harchive => absurd harchive hnot
    · cases h
  | false =>
    rw [hcolder, if_neg Bool.false_ne_true, run_warm_stay (Or.inr hoff) store] at h
    cases h
    have harchive := Tier.eq_archive_of_not_colder hcolder hoff hne
    exact ⟨fun hlive _ => hlive, fun hlive => hlive harchive⟩

/-- A move off the chain that succeeds leaves a live copy, for every record, block, policy and content of the store;
from the archive it does so exactly if the copy that was known of was live before. -/
theorem migrate_leaves_live_copy (now : Instant) (block : Block) (target : Tier) (s : Service MemoryStore)
    (hoff : target.isOffChain = true)
    (hsuccess : ((migrate MemoryStore.api now block target).run s).1.success = true) :
    ((migrate MemoryStore.api now block target).run s).2.HasLiveCopy block.number ↔
      ((s.recordOf now block).tier = .archive → IsLive s.store (knownCopy block (s.recordOf now block))) := by
  have hends := migrate_ends MemoryStore.api now block target s
  generalize (migrate MemoryStore.api now block target).run s = result at hends hsuccess ⊢
  cases hends with
  | already _ => cases hsuccess
  | failed _ _ => cases hsuccess
  | @moved copy restored store htier answer =>
    rw [tracked_fst] at htier answer
    rw [← isLive_carry_iff hoff htier answer]
    have hrecord : ((s.tracked now block).2.insert block.number ((s.tracked now block).1.moved target copy)).get?
        block.number = some ((s.tracked now block).1.moved target copy) := Tracker.get?_insert.trans (if_pos rfl)
    simp only [HasLiveCopy, hrecord, Option.some.injEq, exists_eq_left']
    rfl

private theorem run_migrate_from_archive (h : (s.recordOf now block).tier = .archive) :
    (migrate MemoryStore.api now block .cold).run s =
      (⟨block.number, .archive, .cold, .moved none⟩,
        { s with
          tracker := (s.tracked now block).2.insert block.number
            ((s.recordOf now block).moved .cold (knownCopy block (s.recordOf now block)))
          migrations := s.migrations + 1
          status := (s.status.insert block.number (.inProgress .cold)).erase block.number }) := by
  have hcarry : (carry MemoryStore.api s.deflate s.policy s.password now block (s.recordOf now block) .cold).run s.store =
      (.ok (knownCopy block (s.recordOf now block), none), s.store) := by
    rw [carry, h]
    exact run_warm_stay (Or.inr rfl) s.store
  rw [← tracked_fst] at h hcarry ⊢
  have hends : MoveEnds MemoryStore.api now block .cold s _ := .moved (by rw [h]; decide) hcarry
  rw [hends.run_eq, h]

def archived (store : MemoryStore) (copy : Option BlobRef) : Service MemoryStore :=
  { create Deflate.compress .standard none store with
    tracker := Tracker.empty.insert (default : Block).number { (default : Access) with tier := .archive, blob := copy } }

private theorem recordOf_archived (store : MemoryStore) (copy : Option BlobRef) :
    (archived store copy).recordOf default default = { (default : Access) with tier := .archive, blob := copy } := by
  have hget : (archived store copy).tracker.get? (default : Block).number = some _ :=
    Tracker.get?_insert.trans (if_pos rfl)
  exact recordOf_of_get? hget

private theorem knownCopy_archived (store : MemoryStore) (copy : Option BlobRef) :
    knownCopy default ((archived store copy).recordOf default default) = copy := by
  rw [recordOf_archived]
  exact knownCopy_of_none rfl

private theorem success_of_archived (store : MemoryStore) (copy : Option BlobRef) :
    ((migrate MemoryStore.api default default .cold).run (archived store copy)).1.success = true := by
  rw [run_migrate_from_archive (by rw [recordOf_archived])]
  rfl

def sampleRef : BlobRef := { (default : BlobRef) with handle := "block-0-copy" }

def sampleStore : MemoryStore :=
  { MemoryStore.empty with blobs := MemoryStore.empty.blobs.insert sampleRef.handle (MemoryStore.blobFor [1] none) }

/-- The first move of a block leaves a live copy in a store that was empty, and a block whose copy is live keeps it on the
way back from the archive. -/
theorem moves_leave_live_copy :
    (((migrate MemoryStore.api default default .cold).run (create Deflate.compress .standard none .empty)).1.success = true ∧
      ((migrate MemoryStore.api default default .cold).run (create Deflate.compress .standard none .empty)).2.HasLiveCopy
        (default : Block).number) ∧
    (((archived sampleStore (some sampleRef)).recordOf default default).tier = .archive ∧
      ((migrate MemoryStore.api default default .cold).run (archived sampleStore (some sampleRef))).1.success = true ∧
      ((migrate MemoryStore.api default default .cold).run (archived sampleStore (some sampleRef))).2.HasLiveCopy
        (default : Block).number) := by
  have hfirst : ((migrate MemoryStore.api default default .cold).run
      (create Deflate.compress .standard none .empty)).1.success = true := rfl
  have hback := success_of_archived sampleStore (some sampleRef)
  have hlive : IsLive sampleStore (some sampleRef) := by
    refine ⟨sampleRef, rfl, ?_⟩
    rw [MemoryStore.run_contains, sampleStore, Std.TreeMap.contains_insert_self]
  refine ⟨⟨hfirst, (migrate_leaves_live_copy default default .cold _ rfl hfirst).2 fun harchive => ?_⟩,
    by rw [recordOf_archived], hback, (migrate_leaves_live_copy default default .cold _ rfl hback).2 fun _ => ?_⟩
  · exact absurd harchive (by decide)
  · rw [knownCopy_archived]
    exact hlive

private theorem archived_leaves_nothing (copy : Option BlobRef) :
    ((migrate MemoryStore.api default default .cold).run (archived .empty copy)).1.success = true ∧
      ¬ ((migrate MemoryStore.api default default .cold).run (archived .empty copy)).2.HasLiveCopy
        (default : Block).number := by
  refine ⟨success_of_archived .empty copy, ?_⟩
  rw [run_migrate_from_archive (by rw [recordOf_archived])]
  rintro ⟨access, -, ref, -, hcontains⟩
  rw [MemoryStore.run_contains] at hcontains
  cases hcontains

/-- A block that comes back from the archive is cold and has no copy: without a reference it gets none, and with one that
leads nowhere it keeps it. -/
theorem lost_copy_is_not_noticed :
    (((migrate MemoryStore.api default default .cold).run (archived .empty none)).1.success = true ∧
      ¬ ((migrate MemoryStore.api default default .cold).run (archived .empty none)).2.HasLiveCopy
        (default : Block).number) ∧
    (((migrate MemoryStore.api default default .cold).run (archived .empty (some default))).1.success = true ∧
      ¬ ((migrate MemoryStore.api default default .cold).run (archived .empty (some default))).2.HasLiveCopy
        (default : Block).number) :=
  ⟨archived_leaves_nothing none, archived_leaves_nothing (some default)⟩

end Service

end TieredLedger
