import Mathlib.Data.List.DropRight
import TieredLedger.Access
import TieredLedger.Proofs.Time

/-! What calls to the tracker do to the records of blocks, and the records after any calls: they are told by the calls
since each block was first seen, after the last call that ended its record. -/
namespace TieredLedger

namespace Access

@[simp] theorem lastAccessed_moved (a : Access) (tier : Tier) (blob : Option BlobRef) :
    (a.moved tier blob).lastAccessed = a.lastAccessed := rfl

@[simp] theorem count_moved (a : Access) (tier : Tier) (blob : Option BlobRef) :
    (a.moved tier blob).count = a.count := rfl

@[simp] theorem tier_moved (a : Access) (tier : Tier) (blob : Option BlobRef) :
    (a.moved tier blob).tier = tier := rfl

@[simp] theorem blob_moved (a : Access) (tier : Tier) (blob : Option BlobRef) :
    (a.moved tier blob).blob = blob := rfl

private theorem toNat_count_touched (a : Access) (now : Instant) :
    (a.touched now).count.toNat = min (a.count.toNat + 1) (UInt64.size - 1) := by
  have hlt := a.count.toNat_lt_size
  simp only [Access.touched]
  split
  · next hfull => simp [hfull, UInt64.size]
  · next hroom =>
    have hne : a.count.toNat ≠ UInt64.size - 1 := fun h => hroom (UInt64.toNat_inj.1 h)
    rw [UInt64.toNat_add]
    simp only [UInt64.size, UInt64.reduceToNat] at hlt hne ⊢
    omega

end Access

namespace Tracker

section Lookups

variable {t : Tracker} {m n : UInt64} {a : Access}

theorem get?_empty : empty.get? n = none := Std.TreeMap.getElem?_emptyc

/-- An entry takes the place of any other of its number. -/
theorem get?_insert : (t.insert n a).get? m = if n = m then some a else t.get? m := by
  simp only [get?, insert, Std.TreeMap.getElem?_insert, Std.LawfulEqCmp.compare_eq_iff_eq]

/-- A block that is evicted has no record, and the others keep theirs. -/
theorem get?_evict : (t.evict n).2.get? m = if n = m then none else t.get? m := by
  simp only [get?, evict, Std.TreeMap.getElem?_erase, Std.LawfulEqCmp.compare_eq_iff_eq]

variable {size : UInt64} {policy : Policy} {now : Instant} {tier : Tier} {blob : Option BlobRef}

/-- The record that is given is the one that is tracked. -/
theorem get?_getOrCreate_self :
    (t.getOrCreate n size policy now).2.get? n = some (t.getOrCreate n size policy now).1 := by
  rw [getOrCreate]
  cases h : t.get? n with
  | some a => exact h
  | none => exact get?_insert.trans (if_pos rfl)

/-- Nothing changes for a block that is tracked. -/
theorem getOrCreate_of_get? (h : t.get? n = some a) : t.getOrCreate n size policy now = (a, t) := by
  rw [getOrCreate, h]

private theorem getOrCreate_of_untracked (h : t.get? n = none) :
    t.getOrCreate n size policy now = (.first size policy now, t.insert n (.first size policy now)) := by
  rw [getOrCreate, h]

/-- Other blocks keep their records. -/
theorem get?_getOrCreate_of_ne (hne : m ≠ n) : (t.getOrCreate n size policy now).2.get? m = t.get? m := by
  cases h : t.get? n with
  | some a => rw [getOrCreate_of_get? h]
  | none =>
    rw [getOrCreate_of_untracked h]
    exact get?_insert.trans (if_neg hne.symm)

/-- It adds the record of a block seen for the first time, and nothing else. -/
theorem get?_getOrCreate (h : (t.getOrCreate n size policy now).2.get? m = some a) :
    t.get? m = some a ∨ (m = n ∧ a = Access.first size policy now) := by
  by_cases hmn : m = n
  · subst hmn
    cases hn : t.get? m with
    | some b =>
      rw [getOrCreate_of_get? hn] at h
      exact Or.inl (hn.symm.trans h)
    | none =>
      rw [getOrCreate_of_untracked hn, get?_insert, if_pos rfl] at h
      exact Or.inr ⟨rfl, (Option.some.inj h).symm⟩
  · rw [get?_getOrCreate_of_ne hmn] at h
    exact Or.inl h

/-- An access counts for its block alone, from none if the block was not tracked. -/
theorem get?_recordAccess : (t.recordAccess n size policy now).2.get? m =
    if n = m then some (((t.get? n).getD { Access.first size policy now with count := 0 }).touched now)
    else t.get? m := get?_insert

/-- A commit moves the record of its block, if there is one, and no other. -/
theorem get?_commit : (t.commit n tier blob).2.get? m =
    if n = m then (t.get? n).map (·.moved tier blob) else t.get? m := by
  rw [commit]
  cases h : t.get? n with
  | some a => exact get?_insert
  | none =>
    by_cases hnm : n = m
    · rw [if_pos hnm, ← hnm]
      exact h
    · rw [if_neg hnm]

/-- A commit is refused, and then changes nothing, exactly for a block that is not tracked. -/
theorem commit_refused : ((t.commit n tier blob).1 = false ↔ t.get? n = none) ∧
    (t.get? n = none → (t.commit n tier blob).2 = t) := by
  rw [commit]
  cases h : t.get? n with
  | some a => simp
  | none => simp

private theorem mem_snapshot : (n, a) ∈ t.snapshot ↔ t.get? n = some a := Std.TreeMap.mem_toList_iff_getElem?_eq_some

private theorem sorted_snapshot (t : Tracker) : (t.snapshot.map Prod.fst).Pairwise (· < ·) := by
  rw [List.pairwise_map]
  refine Std.TreeMap.ordered_keys_toList.imp ?_
  intro a b h
  exact Std.compare_eq_lt.1 h

end Lookups

inductive Call
  | getOrCreate (number size : UInt64) (policy : Policy) (now : Instant)
  | recordAccess (number size : UInt64) (policy : Policy) (now : Instant)
  | commit (number : UInt64) (tier : Tier) (blob : Option BlobRef)
  | evict (number : UInt64)
  | clear

structure Sighting where
  size : UInt64
  policy : Policy
  now : Instant

namespace Call

def run (t : Tracker) : Call → Tracker
  | getOrCreate number size policy now => (t.getOrCreate number size policy now).2
  | recordAccess number size policy now => (t.recordAccess number size policy now).2
  | commit number tier blob => (t.commit number tier blob).2
  | evict number => (t.evict number).2
  | clear => .empty

def runAll (calls : List Call) : Tracker := calls.foldl run .empty

def ends (n : UInt64) : Call → Bool
  | evict number => number == n
  | clear => true
  | getOrCreate .. | recordAccess .. | commit .. => false

def sighting? (n : UInt64) : Call → Option Sighting
  | getOrCreate number size policy now | recordAccess number size policy now =>
    if number = n then some ⟨size, policy, now⟩ else none
  | commit .. | evict _ | clear => none

def access? (n : UInt64) : Call → Option Instant
  | recordAccess number _ _ now => if number = n then some now else none
  | getOrCreate .. | commit .. | evict _ | clear => none

def move? (n : UInt64) : Call → Option (Tier × Option BlobRef)
  | commit number tier blob => if number = n then some (tier, blob) else none
  | getOrCreate .. | recordAccess .. | evict _ | clear => none

/-- The calls after the last that ended the record of a block. -/
def since (n : UInt64) (calls : List Call) : List Call := calls.rtakeWhile fun c => !c.ends n

end Call

open Call

/-- A record as the call that made it and the later calls tell it. -/
structure Tells (n : UInt64) (first : Call) (seen : Sighting) (later : List Call) (a : Access) : Prop where
  sighting : first.sighting? n = some seen
  size : a.size = seen.size
  count : a.count.toNat = min
    ((if (first.access? n).isSome then 0 else 1) + ((first :: later).filterMap (access? n)).length) (UInt64.size - 1)
  lastAccessed : a.lastAccessed.IsLast (seen.now :: later.filterMap (access? n))
  place : (a.tier, a.blob) = (later.filterMap (move? n)).getLast?.getD (seen.policy.initialTier seen.size, none)

namespace Tells

variable {n : UInt64} {first call : Call} {seen : Sighting} {later : List Call} {a : Access}

/-- Whichever call made the record, it counts as one access. -/
theorem accesses_cons (n : UInt64) (first : Call) (later : List Call) :
    (if (first.access? n).isSome then 0 else 1) + ((first :: later).filterMap (access? n)).length =
      1 + (later.filterMap (access? n)).length := by
  rw [List.filterMap_cons]
  cases first.access? n with
  | none => rfl
  | some now =>
    simp only [Option.isSome_some, if_true, List.length_cons]
    omega

private theorem one_le_count (h : Tells n first seen later a) : 1 ≤ a.count := by
  rw [UInt64.le_iff_toNat_le, h.count, accesses_cons, UInt64.toNat_one, UInt64.size]
  omega

/-- A record is made by the first call that tells about its block. -/
theorem made (hseen : first.sighting? n = some seen) (hsize : a.size = seen.size) (hcount : a.count = 1)
    (hlast : a.lastAccessed = seen.now) (htier : a.tier = seen.policy.initialTier seen.size) (hblob : a.blob = none) :
    Tells n first seen [] a where
  sighting := hseen
  size := hsize
  count := by
    rw [accesses_cons, hcount]
    rfl
  lastAccessed := by
    rw [hlast]
    exact Instant.isLast_singleton seen.now
  place := by
    rw [htier, hblob]
    rfl

/-- A call that neither accesses nor moves the block leaves its record as it is. -/
theorem pass (h : Tells n first seen later a) (haccess : call.access? n = none) (hmove : call.move? n = none) :
    Tells n first seen (later ++ [call]) a where
  sighting := h.sighting
  size := h.size
  count := by
    rw [h.count, accesses_cons, accesses_cons, List.filterMap_append]
    simp [haccess]
  lastAccessed := by
    have hsame := h.lastAccessed
    simpa [List.filterMap_append, haccess] using hsame
  place := by
    rw [h.place, List.filterMap_append]
    simp [hmove]

private theorem access (h : Tells n first seen later a) {now : Instant} (haccess : call.access? n = some now)
    (hmove : call.move? n = none) : Tells n first seen (later ++ [call]) (a.touched now) where
  sighting := h.sighting
  size := h.size
  count := by
    rw [Access.toNat_count_touched, h.count, accesses_cons, accesses_cons, List.filterMap_append]
    simp only [List.filterMap_cons, haccess, List.filterMap_nil, List.length_append, List.length_singleton]
    omega
  lastAccessed := by
    have hlater := h.lastAccessed.max now
    simpa [Access.touched, List.filterMap_append, haccess] using hlater
  place := by
    have hsame := h.place
    simpa [Access.touched, List.filterMap_append, hmove] using hsame

private theorem move (h : Tells n first seen later a) {tier : Tier} {blob : Option BlobRef}
    (haccess : call.access? n = none) (hmove : call.move? n = some (tier, blob)) :
    Tells n first seen (later ++ [call]) (a.moved tier blob) where
  sighting := h.sighting
  size := h.size
  count := by
    have hsame := h.count
    simpa [accesses_cons, List.filterMap_append, haccess] using hsame
  lastAccessed := by
    have hsame := h.lastAccessed
    simpa [List.filterMap_append, haccess] using hsame
  place := by
    rw [List.filterMap_append]
    simp [hmove]

end Tells

/-- The record of a block, if it has one, as the calls since its last end tell it: the first of them about the block
made it. -/
def Recorded (n : UInt64) (calls : List Call) : Option Access → Prop
  | none => ∀ call ∈ calls, call.sighting? n = none
  | some a => ∃ before first seen later, calls = before ++ first :: later ∧
      (∀ call ∈ before, call.sighting? n = none) ∧ Tells n first seen later a

namespace Recorded

variable {n : UInt64} {calls : List Call} {call : Call} {seen : Sighting} {a b : Access} {o : Option Access} {t : Tracker}

private theorem idle (h : Recorded n calls none) (hseen : call.sighting? n = none) :
    Recorded n (calls ++ [call]) none := by
  intro c hc
  rcases List.mem_append.1 hc with hc | hc
  · exact h c hc
  · rw [List.mem_singleton.1 hc]
    exact hseen

private theorem begins (h : Recorded n calls none) (htells : Tells n call seen [] a) :
    Recorded n (calls ++ [call]) (some a) :=
  ⟨calls, call, seen, [], rfl, h, htells⟩

private theorem extend (h : Recorded n calls (some a))
    (htells : ∀ first seen later, Tells n first seen later a → Tells n first seen (later ++ [call]) b) :
    Recorded n (calls ++ [call]) (some b) := by
  obtain ⟨before, first, seen, later, rfl, hbefore, ha⟩ := h
  refine ⟨before, first, seen, later ++ [call], ?_, hbefore, htells first seen later ha⟩
  rw [List.append_assoc, List.cons_append]

/-- A call about another block leaves the record as it is. -/
theorem pass (h : Recorded n calls o) (hseen : call.sighting? n = none) (haccess : call.access? n = none)
    (hmove : call.move? n = none) : Recorded n (calls ++ [call]) o := by
  cases o with
  | none => exact h.idle hseen
  | some a => exact h.extend fun first seen later ha => ha.pass haccess hmove

/-- A call that does not end the record of a block goes on telling it. -/
theorem run (h : Recorded n calls (t.get? n)) (hends : call.ends n = false) :
    Recorded n (calls ++ [call]) ((call.run t).get? n) := by
  cases call with
  | getOrCreate number size policy now =>
    rw [Call.run]
    by_cases hnumber : number = n
    · subst hnumber
      cases hget : t.get? number with
      | none =>
        rw [hget] at h
        rw [getOrCreate_of_untracked hget, get?_insert, if_pos rfl]
        exact h.begins (.made (if_pos rfl) rfl rfl rfl rfl rfl)
      | some a =>
        rw [hget] at h
        rw [getOrCreate_of_get? hget, hget]
        exact h.extend fun first seen later ha => ha.pass rfl rfl
    · rw [get?_getOrCreate_of_ne (Ne.symm hnumber)]
      exact h.pass (if_neg hnumber) rfl rfl
  | recordAccess number size policy now =>
    rw [Call.run, get?_recordAccess]
    by_cases hnumber : number = n
    · subst hnumber
      rw [if_pos rfl]
      cases hget : t.get? number with
      | none =>
        rw [hget] at h
        exact h.begins (.made (if_pos rfl) rfl rfl (ite_self _) rfl rfl)
      | some a =>
        rw [hget] at h
        exact h.extend fun first seen later ha => ha.access (if_pos rfl) rfl
    · rw [if_neg hnumber]
      exact h.pass (if_neg hnumber) (if_neg hnumber) rfl
  | commit number tier blob =>
    rw [Call.run, get?_commit]
    by_cases hnumber : number = n
    · subst hnumber
      rw [if_pos rfl]
      cases hget : t.get? number with
      | none =>
        rw [hget] at h
        exact h.idle rfl
      | some a =>
        rw [hget] at h
        exact h.extend fun first seen later ha => ha.move rfl (if_pos rfl)
    · rw [if_neg hnumber]
      exact h.pass rfl rfl (if_neg hnumber)
  | evict number =>
    have hnumber : number ≠ n := by simpa [ends] using hends
    rw [Call.run, get?_evict, if_neg hnumber]
    exact h.pass rfl rfl rfl
  | clear => cases hends

/-- A call that ends a record leaves none. -/
theorem ended (hends : call.ends n = true) (t : Tracker) : (call.run t).get? n = none := by
  cases call with
  | evict number =>
    have hnumber : number = n := by simpa [ends] using hends
    rw [Call.run, get?_evict, if_pos hnumber]
  | clear => exact get?_empty
  | getOrCreate | recordAccess | commit => cases hends

/-- The calls since its last end tell the record of a block. -/
theorem runAll (n : UInt64) (calls : List Call) : Recorded n (since n calls) ((Call.runAll calls).get? n) := by
  induction calls using List.reverseRecOn with
  | nil =>
    intro call hcall
    cases hcall
  | append_singleton calls call ih =>
    rw [Call.runAll, List.foldl_append, since, List.rtakeWhile_concat]
    change Recorded n _ ((call.run (Call.runAll calls)).get? n)
    cases hends : call.ends n with
    | true =>
      rw [ended hends]
      intro c hc
      cases hc
    | false => exact ih.run hends

end Recorded

/-- The tracker replays its log. A block is tracked exactly when a call after the last end of its record told about it;
the first such call made the record, and it and the later ones tell what the record holds. A commit is refused, and
changes nothing, exactly for blocks that are not tracked, and a snapshot has the tracked blocks in increasing order. -/
theorem runAll_replays_log (calls : List Call) :
    (∀ n, ((runAll calls).get? n).isSome = true ↔ ∃ call ∈ since n calls, (call.sighting? n).isSome = true) ∧
    (∀ n a, (runAll calls).get? n = some a → 1 ≤ a.count ∧
      ∃ before first seen later, since n calls = before ++ first :: later ∧
        (∀ call ∈ before, call.sighting? n = none) ∧ Tells n first seen later a) ∧
    (∀ n tier blob, (((runAll calls).commit n tier blob).1 = false ↔ (runAll calls).get? n = none) ∧
      ((runAll calls).get? n = none → ((runAll calls).commit n tier blob).2 = runAll calls)) ∧
    ((runAll calls).snapshot.map Prod.fst).Pairwise (· < ·) ∧
    ∀ n a, (n, a) ∈ (runAll calls).snapshot ↔ (runAll calls).get? n = some a := by
  refine ⟨?_, ?_, fun n tier blob => commit_refused, sorted_snapshot _, fun n a => mem_snapshot⟩
  · intro n
    have h := Recorded.runAll n calls
    cases hget : (runAll calls).get? n with
    | none =>
      rw [hget] at h
      refine iff_of_false Bool.false_ne_true ?_
      rintro ⟨call, hcall, hseen⟩
      rw [h call hcall] at hseen
      cases hseen
    | some a =>
      rw [hget] at h
      obtain ⟨before, first, seen, later, heq, -, ha⟩ := h
      refine iff_of_true rfl ⟨first, ?_, ?_⟩
      · rw [heq]
        exact List.mem_append_right _ List.mem_cons_self
      · rw [ha.sighting]
        rfl
  · intro n a hget
    have h := Recorded.runAll n calls
    rw [hget] at h
    obtain ⟨before, first, seen, later, heq, hbefore, ha⟩ := h
    exact ⟨ha.one_le_count, before, first, seen, later, heq, hbefore, ha⟩

end Tracker

end TieredLedger
