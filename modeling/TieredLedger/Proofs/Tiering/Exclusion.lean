import TieredLedger.Proofs.Tiering.LockUse
import TieredLedger.Store.Memory

/-! Any number of tasks in any interleaving: at most one of them is in the critical section of a block, although
evictions take locks out of the table. -/
namespace TieredLedger

/-- A task among others, and whether it has taken the lock of its block out of the table. -/
structure Participant where
  task : Task
  removed : Bool

def Task.isFresh : Task → Bool
  | move _ _ .start | evict _ .start | access _ none | sweep _ (.start _) => true
  | _ => false

def Task.isSpent : Task → Bool
  | evict _ (.dropping _ _) | evict _ (.done _) => true
  | _ => false

/-- Whether a task is an eviction whose block had a lock in the table before a step, and has none after it. -/
def Task.removes (before after : Locks) : Task → Bool
  | evict number _ => before.table.contains number && !after.table.contains number
  | _ => false

/-- What can come about when tasks arrive at any time and take their steps in any order. -/
inductive Reachable {σ : Type} (api : BlobStore σ) : World σ → List Participant → Prop
  | start (service : Service σ) : Reachable api ⟨service, .empty⟩ []
  | arrive {w : World σ} {participants : List Participant} (task : Task) (earlier : Reachable api w participants)
      (fresh : task.isFresh = true) : Reachable api w (participants ++ [⟨task, false⟩])
  | step {w w' : World σ} {task task' : Task} {removed : Bool} (before after : List Participant) (clock : Instant)
      (earlier : Reachable api w (before ++ ⟨task, removed⟩ :: after))
      (stepped : task.step api clock w = some (task', w')) :
      Reachable api w' (before ++ ⟨task', removed || task.removes w.locks w'.locks⟩ :: after)

section Holds

variable {h : Hold} {number : UInt64} {lock : Nat}

private theorem Hold.holds_iff : h.holds lock = true ↔ ∃ number, h.handle? = some (number, lock) := by
  cases h <;> simp [holds, handle?]

private theorem Hold.isInside_iff : h.isInside number = true ↔ ∃ lock, h = .inside number lock := by
  cases h <;> simp [isInside]

private theorem Task.hold_of_isFresh {t : Task} (h : t.isFresh = true) : t.hold = .none := by
  unfold isFresh at h
  split at h
  case h_5 => cases h
  all_goals rfl

private theorem Task.isSpent_of_inside {t : Task} (h : t.hold = .inside number lock) : t.isSpent = false := by
  unfold isSpent
  split
  case h_3 => rfl
  all_goals cases h

end Holds

/-- The locks record what tasks have of them, and no lock is used that was not made. -/
structure Accounted (l : Locks) (holds : List Hold) : Prop where
  handles : ∀ lock, holds.countP (Hold.holds lock) = l.handleCount lock
  locked : ∀ lock, holds.countP (Hold.locks lock) = if l.isLocked lock then 1 else 0
  handle_lt : ∀ h ∈ holds, ∀ number lock, h.handle? = some (number, lock) → lock < l.next
  table_lt : ∀ (number : UInt64) (lock : Nat), l.table[number]? = some lock → lock < l.next

namespace Accounted

variable {l l' : Locks} {h h' : Hold} {others holds : List Hold}

private theorem empty : Accounted .empty [] where
  handles lock := by simp [Locks.handleCount, Locks.empty]
  locked lock := by simp [Locks.isLocked, Locks.empty]
  handle_lt h hmem := by cases hmem
  table_lt number lock hentry := by simp [Locks.empty] at hentry

private theorem perm (ha : Accounted l holds) (hperm : holds.Perm others) : Accounted l others where
  handles lock := hperm.countP_eq _ ▸ ha.handles lock
  locked lock := hperm.countP_eq _ ▸ ha.locked lock
  handle_lt h hmem := ha.handle_lt h (hperm.mem_iff.2 hmem)
  table_lt := ha.table_lt

private theorem idle (ha : Accounted l others) : Accounted l (.none :: others) where
  handles lock := ha.handles lock
  locked lock := ha.locked lock
  handle_lt h hmem number lock hhandle := by
    obtain rfl | hmem := List.mem_cons.1 hmem
    · cases hhandle
    · exact ha.handle_lt h hmem number lock hhandle
  table_lt := ha.table_lt

private theorem handleCount_next (ha : Accounted l holds) : l.handleCount l.next = 0 := by
  rw [← ha.handles, List.countP_eq_zero]
  intro h hmem hheld
  obtain ⟨number, hhandle⟩ := Hold.holds_iff.1 hheld
  exact Nat.lt_irrefl _ (ha.handle_lt h hmem number _ hhandle)

private theorem handleCount_pos (ha : Accounted l (h :: others)) {lock : Nat} (hheld : h.holds lock = true) :
    0 < l.handleCount lock := by
  rw [← ha.handles, List.countP_pos_iff]
  exact ⟨h, List.mem_cons_self, hheld⟩

private theorem isLocked_of_locks (ha : Accounted l (h :: others)) {lock : Nat} (hlocked : h.locks lock = true) :
    l.isLocked lock = true := by
  have hpos : 0 < (h :: others).countP (Hold.locks lock) := List.countP_pos_iff.2 ⟨h, List.mem_cons_self, hlocked⟩
  rw [ha.locked] at hpos
  split at hpos
  · assumption
  · exact absurd hpos (Nat.lt_irrefl 0)

private theorem lockStep (ha : Accounted l (h :: others)) (step : LockStep h l h' l') :
    Accounted l' (h' :: others) where
  handles lock := by
    have hbefore := ha.handles lock
    have hbalance := step.handleCount_balance ha.handleCount_next lock ha.handleCount_pos
    rw [List.countP_cons] at hbefore ⊢
    omega
  locked lock := by
    have hbefore := ha.locked lock
    have hbalance := step.isLocked_balance lock ha.isLocked_of_locks
    rw [List.countP_cons] at hbefore ⊢
    omega
  handle_lt := by
    intro other hmem number lock hhandle
    have hlt := ha.handle_lt
    obtain rfl | hmem := List.mem_cons.1 hmem
    · obtain hbefore | hentry := step.handle_cases hhandle
      · exact Nat.lt_of_lt_of_le (hlt h List.mem_cons_self number lock hbefore) step.next_le
      · exact step.table_lt_next ha.table_lt hentry
    · exact Nat.lt_of_lt_of_le (hlt other (List.mem_cons_of_mem _ hmem) number lock hhandle) step.next_le
  table_lt number lock := step.table_lt_next ha.table_lt

/-- A try at the table changes no handle and no lock. -/
theorem forget (ha : Accounted l holds) (number : UInt64) : Accounted (l.forget number) holds := by
  obtain heq | ⟨_, -, -, heq⟩ := l.forget_cases number
  · rw [heq]
    exact ha
  · rw [heq]
    refine ⟨ha.handles, ha.locked, ha.handle_lt, fun other lock hentry => ?_⟩
    rw [Std.TreeMap.getElem?_erase] at hentry
    split at hentry
    · cases hentry
    · exact ha.table_lt other lock hentry

end Accounted

/-- A task has a handle to the lock that the table has for its block, unless it has taken that out. -/
structure Guarded (l : Locks) (participants : List Participant) : Prop where
  accounted : Accounted l (participants.map fun p => p.task.hold)
  entered : ∀ p ∈ participants, p.removed = false →
    ∀ number lock, p.task.hold.handle? = some (number, lock) → l.table[number]? = some lock
  spent : ∀ p ∈ participants, p.removed = true → p.task.isSpent = true

namespace Guarded

variable {σ : Type} {api : BlobStore σ} {clock : Instant} {w w' : World σ} {l l' : Locks} {t t' : Task}
  {removed : Bool} {participants others : List Participant} {number : UInt64} {lock : Nat}

private theorem empty : Guarded .empty [] where
  accounted := .empty
  entered p hmem := by cases hmem
  spent p hmem := by cases hmem

/-- The order of the tasks does not matter. -/
theorem perm (hg : Guarded l participants) (hperm : participants.Perm others) : Guarded l others where
  accounted := hg.accounted.perm (hperm.map _)
  entered p hmem := hg.entered p (hperm.mem_iff.2 hmem)
  spent p hmem := hg.spent p (hperm.mem_iff.2 hmem)

private theorem arrive (hg : Guarded l others) (hfresh : t.isFresh = true) : Guarded l (⟨t, false⟩ :: others) where
  accounted := by
    rw [List.map_cons, Task.hold_of_isFresh hfresh]
    exact hg.accounted.idle
  entered := by
    intro p hmem hremoved number lock hhandle
    obtain rfl | hmem := List.mem_cons.1 hmem
    · rw [Task.hold_of_isFresh hfresh] at hhandle
      cases hhandle
    · exact hg.entered p hmem hremoved number lock hhandle
  spent := by
    intro p hmem hremoved
    obtain rfl | hmem := List.mem_cons.1 hmem
    · cases hremoved
    · exact hg.spent p hmem hremoved

private theorem lockStep (hg : Guarded l (⟨t, removed⟩ :: others)) (step : LockStep t.hold l t'.hold l')
    (hspent : t.isSpent = true → t'.isSpent = true) : Guarded l' (⟨t', removed⟩ :: others) where
  accounted := hg.accounted.lockStep step
  entered := by
    intro p hmem hremoved number lock hhandle
    obtain rfl | hmem := List.mem_cons.1 hmem
    · obtain hbefore | hentry := step.handle_cases hhandle
      · exact step.table_stays (hg.entered _ List.mem_cons_self hremoved number lock hbefore)
      · exact hentry
    · exact step.table_stays (hg.entered p (List.mem_cons_of_mem _ hmem) hremoved number lock hhandle)
  spent := by
    intro p hmem hremoved
    obtain rfl | hmem := List.mem_cons.1 hmem
    · exact hspent (hg.spent _ List.mem_cons_self hremoved)
    · exact hg.spent p (List.mem_cons_of_mem _ hmem) hremoved

/-- A lock that leaves the table has one handle, which is that of the eviction: nobody else is on its way to it. -/
theorem ne_of_handleCount_le_one (hg : Guarded l (⟨t, removed⟩ :: others))
    (hhandle : t.hold.handle? = some (number, lock)) (hcount : l.handleCount lock ≤ 1) {p : Participant}
    (hmem : p ∈ others) {other : UInt64} {held : Nat} (hheld : p.task.hold.handle? = some (other, held)) :
    held ≠ lock := by
  rintro rfl
  have hfirst : t.hold.holds held = true := Hold.holds_iff.2 ⟨number, hhandle⟩
  have hother : 0 < (others.map fun p => p.task.hold).countP (Hold.holds held) :=
    List.countP_pos_iff.2 ⟨_, List.mem_map_of_mem hmem, Hold.holds_iff.2 ⟨other, hheld⟩⟩
  have hall := hg.accounted.handles held
  rw [List.map_cons, List.countP_cons, if_pos hfirst] at hall
  omega

private theorem forget {evicted : Option Access}
    (hg : Guarded l (⟨.evict number (.forgetting lock evicted), removed⟩ :: others)) :
    Guarded (l.forget number) (⟨.evict number (.dropping lock evicted),
      removed || Task.removes l (l.forget number) (.evict number (.forgetting lock evicted))⟩ :: others) := by
  obtain rfl : removed = false := by
    cases removed with
    | false => rfl
    | true => cases hg.spent _ List.mem_cons_self rfl
  have hlock : l.table[number]? = some lock := hg.entered _ List.mem_cons_self rfl number lock rfl
  obtain heq | ⟨_, hentry, hcount, heq⟩ := l.forget_cases number
  · have hflag : Task.removes l l (.evict number (.forgetting lock evicted)) = false := by simp [Task.removes]
    rw [heq, hflag]
    exact hg.lockStep .stay fun _ => rfl
  · obtain rfl := Option.some.inj (hlock.symm.trans hentry)
    have hflag : Task.removes l (l.forget number) (.evict number (.forgetting lock evicted)) = true := by
      simp [Task.removes, heq, Std.TreeMap.contains_eq_isSome_getElem?, hlock]
    rw [hflag]
    refine ⟨hg.accounted.forget number, fun p hmem hremoved other held hhandle => ?_, fun p hmem hremoved => ?_⟩
    · obtain rfl | hmem := List.mem_cons.1 hmem
      · cases hremoved
      · have hheld := hg.entered p (List.mem_cons_of_mem _ hmem) hremoved other held hhandle
        have hne : number ≠ other := by
          rintro rfl
          exact hg.ne_of_handleCount_le_one rfl hcount hmem hhandle (Option.some.inj (hheld.symm.trans hlock))
        rw [heq]
        simpa [Std.TreeMap.getElem?_erase, hne] using hheld
    · obtain rfl | hmem := List.mem_cons.1 hmem
      · rfl
      · exact hg.spent p (List.mem_cons_of_mem _ hmem) hremoved

end Guarded

section Runs

variable {σ : Type} {api : BlobStore σ} {clock : Instant} {w w' : World σ} {l l' : Locks} {h h' : Hold} {t t' : Task}
  {removed : Bool} {participants others : List Participant} {number : UInt64} {lock : Nat}

private theorem Task.isSpent_step (h : t.step api clock w = some (t', w')) (hspent : t.isSpent = true) :
    t'.isSpent = true := by
  unfold isSpent at hspent
  split at hspent
  · cases h
    rfl
  · cases h
  · cases hspent

private theorem Task.removes_of_lockStep (t : Task) (step : LockStep h l h' l') : t.removes l l' = false := by
  cases t with
  | evict number phase =>
    rw [removes, Std.TreeMap.contains_eq_isSome_getElem?, Std.TreeMap.contains_eq_isSome_getElem?]
    cases hentry : l.table[number]? with
    | none => rfl
    | some lock => rw [step.table_stays hentry]; rfl
  | move | access | sweep => rfl

private theorem Guarded.step (hg : Guarded w.locks (⟨t, removed⟩ :: others)) (h : t.step api clock w = some (t', w')) :
    Guarded w'.locks (⟨t', removed || t.removes w.locks w'.locks⟩ :: others) := by
  obtain hstep | ⟨number, lock, evicted, rfl, rfl, hforget⟩ := Task.step_locks h
  · rw [Task.removes_of_lockStep t hstep, Bool.or_false]
    exact hg.lockStep hstep (Task.isSpent_step h)
  · rw [hforget]
    exact hg.forget

/-- Whatever can come about, every task has a handle to the lock that the table has for its block, or took that out. -/
theorem Reachable.guarded (h : Reachable api w participants) : Guarded w.locks participants := by
  induction h with
  | start service => exact .empty
  | arrive task earlier fresh ih => exact (ih.arrive fresh).perm (List.perm_append_singleton _ _).symm
  | step before after clock earlier stepped ih =>
    exact ((ih.perm List.perm_middle).step stepped).perm List.perm_middle.symm

private theorem Guarded.entry_of_inside (hg : Guarded l participants) {p : Participant} (hmem : p ∈ participants)
    (hinside : p.task.hold = .inside number lock) : l.table[number]? = some lock := by
  refine hg.entered p hmem ?_ number lock (by rw [hinside]; rfl)
  cases hremoved : p.removed with
  | false => rfl
  | true => exact absurd (hg.spent p hmem hremoved) (by simp [Task.isSpent_of_inside hinside])

/-- All that are inside have locked the lock that the table has, which is locked once at most. -/
theorem Guarded.countP_isInside_le_one (hg : Guarded l participants) (number : UInt64) :
    participants.countP (fun p => p.task.hold.isInside number) ≤ 1 := by
  have hinside : ∀ p ∈ participants, p.task.hold.isInside number = true →
      ∃ lock, l.table[number]? = some lock ∧ p.task.hold.locks lock = true := by
    intro p hmem hin
    obtain ⟨lock, hhold⟩ := Hold.isInside_iff.1 hin
    exact ⟨lock, hg.entry_of_inside hmem hhold, by rw [hhold]; exact beq_self_eq_true lock⟩
  cases hentry : l.table[number]? with
  | none =>
    have hnobody : participants.countP (fun p => p.task.hold.isInside number) = 0 := by
      refine List.countP_eq_zero.2 fun p hmem hin => ?_
      obtain ⟨lock, hsome, -⟩ := hinside p hmem hin
      cases hentry.symm.trans hsome
    omega
  | some lock =>
    calc participants.countP (fun p => p.task.hold.isInside number)
        ≤ participants.countP (Hold.locks lock ∘ fun p => p.task.hold) := by
          refine List.countP_mono_left fun p hmem hin => ?_
          obtain ⟨held, hsome, hlocks⟩ := hinside p hmem hin
          rwa [← Option.some.inj (hsome.symm.trans hentry)]
      _ = if l.isLocked lock then 1 else 0 := by rw [← List.countP_map, hg.accounted.locked]
      _ ≤ 1 := by split <;> decide

/-- At most one task at a time is in the critical section of a block, and the table has the lock that tasks have handles
to: all but an eviction that has taken it out. -/
theorem Reachable.mutual_exclusion (h : Reachable api w participants) :
    (∀ number, participants.countP (fun p => p.task.hold.isInside number) ≤ 1) ∧
      ∀ p ∈ participants, p.removed = false →
        ∀ number lock, p.task.hold.handle? = some (number, lock) → w.locks.table[number]? = some lock :=
  ⟨h.guarded.countP_isInside_le_one, h.guarded.entered⟩

/-- An eviction has taken lock 0 of block 7 out of the table and still has its handle, when a move of the block makes
lock 1 and goes inside. -/
theorem overtaken_eviction_exclusion : ∃ (block : Block) (w : World MemoryStore),
    let participants := [⟨.evict 7 (.dropping 0 none), true⟩, ⟨.move block .cold (.tracking 1), false⟩]
    Reachable MemoryStore.api w participants ∧
      participants.countP (fun p => p.task.hold.isInside 7) ≤ 1 ∧ w.locks.table[(7 : UInt64)]? = some 1 := by
  have alone : Reachable MemoryStore.api _ _ := .start (Service.create Deflate.compress .standard none .empty)
  have fresh := alone.arrive (.evict 7 .start) rfl
  have waiting := fresh.step [] [] default rfl
  have evicting := waiting.step [] [] default rfl
  have evicted := evicting.step [] [] default rfl
  have unlocked := evicted.step [] [] default rfl
  have removed := unlocked.step [] [] default rfl
  have joined := removed.arrive (.move { (default : Block) with number := 7 } .cold .start) rfl
  have overtaking := joined.step [_] [] default rfl
  have inside := overtaking.step [_] [] default rfl
  exact ⟨{ (default : Block) with number := 7 }, _, inside, (Reachable.mutual_exclusion inside).1 7,
    (Reachable.mutual_exclusion inside).2 _ (List.mem_append_right _ List.mem_cons_self) rfl 7 1 rfl⟩

end Runs

end TieredLedger
