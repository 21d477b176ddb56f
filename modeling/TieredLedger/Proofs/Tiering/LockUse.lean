import TieredLedger.Tiering.Task

/-! What tasks do to the locks of blocks: each step of a task either uses one lock in the usual order, or is an eviction
trying to take its lock out of the table. -/
namespace TieredLedger

inductive Hold
  | none
  | waiting (number : UInt64) (lock : Nat)
  | inside (number : UInt64) (lock : Nat)
  | leaving (number : UInt64) (lock : Nat)
deriving DecidableEq, Repr

namespace Hold

def handle? : Hold → Option (UInt64 × Nat)
  | none => Option.none
  | waiting number lock | inside number lock | leaving number lock => some (number, lock)

def holds (lock : Nat) (h : Hold) : Bool := h.handle?.any fun handle => handle.2 == lock

def locks (lock : Nat) : Hold → Bool
  | inside _ held => held == lock
  | none | waiting _ _ | leaving _ _ => false

/-- Whether a task is in the critical section of a block. -/
def isInside (number : UInt64) : Hold → Bool
  | inside entered _ => entered == number
  | none | waiting _ _ | leaving _ _ => false

end Hold

def MovePhase.hold (number : UInt64) : MovePhase → Hold
  | start | done _ => .none
  | waiting lock => .waiting number lock
  | tracking lock | marking lock _ | asking lock _ _ | storing lock _ | fetching lock _ _ | committing lock _ _ _
  | counting lock _ _ | settling lock _ _ | failing lock _ _ | releasing lock _ => .inside number lock
  | dropping lock _ => .leaving number lock

/-- An eviction is inside from locking its lock to unlocking it; only then does it turn to the table. -/
def EvictPhase.hold (number : UInt64) : EvictPhase → Hold
  | start | done _ => .none
  | waiting lock => .waiting number lock
  | evicting lock | releasing lock _ => .inside number lock
  | forgetting lock _ | dropping lock _ => .leaving number lock

def Task.hold : Task → Hold
  | move block _ phase => phase.hold block.number
  | evict number phase => phase.hold number
  | sweep _ (.moving _ _ block _ phase) => phase.hold block.number
  | sweep _ (.start _) | sweep _ (.choosing _ _) | sweep _ (.done _) | access _ _ => .none

namespace Locks

variable {l : Locks} {number : UInt64} {lock : Nat}

private theorem handleCount_insert (l : Locks) (table : Std.TreeMap UInt64 Nat) (count next lock other : Nat) :
    handleCount ⟨table, l.handles.insert lock count, l.locked, next⟩ other =
      if lock = other then count else l.handleCount other := by
  simp only [handleCount, Std.TreeMap.getElem?_insert, Std.LawfulEqCmp.compare_eq_iff_eq]
  split <;> rfl

private theorem isLocked_acquire (l : Locks) (lock other : Nat) :
    (l.acquire lock).isLocked other = (lock == other || l.isLocked other) := by
  simp only [isLocked, acquire, Std.TreeSet.contains_insert]
  rw [Bool.eq_iff_iff]
  simp

private theorem isLocked_release (l : Locks) (lock other : Nat) :
    (l.release lock).isLocked other = (lock != other && l.isLocked other) := by
  simp only [isLocked, release, Std.TreeSet.contains_erase]
  rw [Bool.eq_iff_iff]
  simp

/-- A handle is taken to the lock in the table, or to a new one that is put there. -/
theorem borrow_cases (l : Locks) (number : UInt64) :
    (∃ lock, l.table[number]? = some lock ∧
      l.borrow number = (lock, { l with handles := l.handles.insert lock (l.handleCount lock + 1) })) ∨
    (l.table[number]? = none ∧ l.borrow number = (l.next,
      ⟨l.table.insert number l.next, l.handles.insert l.next 1, l.locked, l.next + 1⟩)) := by
  rw [borrow]
  cases h : l.table[number]? with
  | none => exact Or.inr ⟨rfl, rfl⟩
  | some lock => exact Or.inl ⟨lock, rfl, rfl⟩

/-- A lock is forgotten only if at most one task has a handle to it. -/
theorem forget_cases (l : Locks) (number : UInt64) :
    l.forget number = l ∨ ∃ lock, l.table[number]? = some lock ∧ l.handleCount lock ≤ 1 ∧
      l.forget number = { l with table := l.table.erase number } := by
  rw [forget]
  cases h : l.table[number]? with
  | none => exact Or.inl rfl
  | some lock =>
    dsimp only
    split
    · next hcount => exact Or.inr ⟨lock, rfl, by omega, rfl⟩
    · exact Or.inl rfl

end Locks

/-- A step of a task, as the locks see it, other than an eviction's try at the table. -/
inductive LockStep : Hold → Locks → Hold → Locks → Prop
  | stay {h : Hold} {l : Locks} : LockStep h l h l
  | borrow {l : Locks} (number : UInt64) : LockStep .none l (.waiting number (l.borrow number).1) (l.borrow number).2
  | acquire {number : UInt64} {lock : Nat} {l : Locks} (isFree : l.isLocked lock = false) :
      LockStep (.waiting number lock) l (.inside number lock) (l.acquire lock)
  | release {number : UInt64} {lock : Nat} {l : Locks} :
      LockStep (.inside number lock) l (.leaving number lock) (l.release lock)
  | drop {number : UInt64} {lock : Nat} {l : Locks} : LockStep (.leaving number lock) l .none (l.giveBack lock)

namespace LockStep

variable {h h' : Hold} {l l' : Locks}

/-- An entry of the table stays. -/
theorem table_stays (step : LockStep h l h' l') {number : UInt64} {lock : Nat}
    (hentry : l.table[number]? = some lock) : l'.table[number]? = some lock := by
  cases step with
  | borrow borrowed =>
    obtain ⟨_, -, heq⟩ | ⟨hnone, heq⟩ := l.borrow_cases borrowed
    · rw [heq]
      exact hentry
    · have hne : borrowed ≠ number := by
        rintro rfl
        exact absurd (hnone.symm.trans hentry) nofun
      rw [heq]
      simpa [Std.TreeMap.getElem?_insert, hne] using hentry
  | stay | acquire | release | drop => exact hentry

/-- Locks are made in the order of their numbers. -/
theorem next_le (step : LockStep h l h' l') : l.next ≤ l'.next := by
  cases step with
  | borrow borrowed =>
    obtain ⟨_, -, heq⟩ | ⟨-, heq⟩ := l.borrow_cases borrowed
    · exact Nat.le_of_eq (congrArg (fun result => result.2.next) heq).symm
    · rw [heq]
      exact Nat.le_succ _
  | stay | acquire | release | drop => exact Nat.le_refl _

/-- No lock in the table is yet to be made. -/
theorem table_lt_next (step : LockStep h l h' l')
    (hbefore : ∀ (number : UInt64) (lock : Nat), l.table[number]? = some lock → lock < l.next)
    {number : UInt64} {lock : Nat} (hentry : l'.table[number]? = some lock) : lock < l'.next := by
  cases step with
  | borrow borrowed =>
    obtain ⟨_, -, heq⟩ | ⟨-, heq⟩ := l.borrow_cases borrowed
    · rw [heq] at hentry ⊢
      exact hbefore number lock hentry
    · rw [heq] at hentry ⊢
      rw [Std.TreeMap.getElem?_insert] at hentry
      split at hentry
      · cases hentry
        exact Nat.lt_succ_self _
      · exact Nat.lt_succ_of_lt (hbefore number lock hentry)
  | stay | acquire | release | drop => exact hbefore number lock hentry

/-- A handle is an old one, or the table has its lock. -/
theorem handle_cases (step : LockStep h l h' l') {number : UInt64} {lock : Nat}
    (hhandle : h'.handle? = some (number, lock)) :
    h.handle? = some (number, lock) ∨ l'.table[number]? = some lock := by
  cases step with
  | borrow borrowed =>
    cases hhandle
    obtain ⟨_, hentry, heq⟩ | ⟨-, heq⟩ := l.borrow_cases number
    · rw [heq]
      exact Or.inr hentry
    · rw [heq]
      exact Or.inr (by simp)
  | stay | acquire | release => exact Or.inl hhandle
  | drop => cases hhandle

/-- The number of handles to a lock goes with what the task has. -/
theorem handleCount_balance (step : LockStep h l h' l') (hnext : l.handleCount l.next = 0) (lock : Nat)
    (hheld : h.holds lock = true → 0 < l.handleCount lock) :
    l'.handleCount lock + (if h.holds lock then 1 else 0) = l.handleCount lock + if h'.holds lock then 1 else 0 := by
  cases step with
  | borrow borrowed =>
    obtain ⟨_, -, heq⟩ | ⟨-, heq⟩ := l.borrow_cases borrowed
    all_goals
      rw [heq, Locks.handleCount_insert]
      simp only [Hold.holds, Hold.handle?, Option.any_none, Option.any_some, beq_iff_eq]
      split <;> simp_all
  | stay => rfl
  | acquire | release => rfl
  | @drop _ given =>
    simp only [Hold.holds, Hold.handle?, Option.any_none, Option.any_some, beq_iff_eq] at hheld ⊢
    rw [Locks.giveBack, Locks.handleCount_insert]
    by_cases heq : given = lock
    · subst heq
      have := hheld rfl
      simp
      omega
    · simp [heq]

/-- A lock is locked as long as a task has locked it. -/
theorem isLocked_balance (step : LockStep h l h' l') (lock : Nat)
    (hlocked : h.locks lock = true → l.isLocked lock = true) :
    ((if l'.isLocked lock then 1 else 0) + if h.locks lock then 1 else 0) =
      (if l.isLocked lock then 1 else 0) + if h'.locks lock then 1 else 0 := by
  cases step with
  | stay => rfl
  | borrow borrowed =>
    have : (l.borrow borrowed).2.isLocked lock = l.isLocked lock := by
      obtain ⟨_, -, heq⟩ | ⟨-, heq⟩ := l.borrow_cases borrowed <;> rw [heq] <;> rfl
    rw [this]
    rfl
  | @acquire _ taken _ isFree =>
    simp only [Hold.locks, Locks.isLocked_acquire]
    by_cases heq : taken = lock
    · subst heq
      simp [isFree]
    · simp [heq]
  | @release _ taken =>
    simp only [Hold.locks, Locks.isLocked_release] at hlocked ⊢
    by_cases heq : taken = lock
    · subst heq
      simp [hlocked]
    · simp [heq]
  | drop => rfl

end LockStep

section Steps

variable {σ : Type} {api : BlobStore σ} {clock now : Instant} {block : Block} {target : Tier} {w w' : World σ}

/-- What is done to the service leaves the locks alone. -/
theorem LockStep.onService {α : Type} {act : StateM (Service σ) α} {a : α} {h : Hold}
    (heq : w.onService act = (a, w')) : LockStep h w.locks h w'.locks := by
  have hlocks : w.locks = w'.locks := congrArg (fun result => result.2.locks) heq
  rw [hlocks]
  exact .stay

/-- A move commits at once, turns to the store, or has to give up. -/
theorem MovePhase.seeTo_cases (block : Block) (access : Access) (target : Tier) (lock : Nat) :
    (∃ blob, seeTo block access target lock = .committing lock access blob none) ∨
      (∃ blob, seeTo block access target lock = .asking lock access blob) ∨
      seeTo block access target lock = .storing lock access ∨
      (∃ blob, seeTo block access target lock = .fetching lock access blob) ∨
      ∃ error, seeTo block access target lock = .failing lock access error := by
  rw [seeTo]
  split
  · split
    · exact Or.inl ⟨_, rfl⟩
    · cases Service.knownCopy block access with
      | none => exact Or.inr (Or.inr (Or.inl rfl))
      | some blob => exact Or.inr (Or.inl ⟨blob, rfl⟩)
  · split
    · exact Or.inl ⟨_, rfl⟩
    · cases Service.knownCopy block access with
      | none => exact Or.inr (Or.inr (Or.inr (Or.inr ⟨_, rfl⟩)))
      | some blob => exact Or.inr (Or.inr (Or.inr (Or.inl ⟨blob, rfl⟩)))

private theorem MovePhase.hold_seeTo (block : Block) (access : Access) (target : Tier) (lock : Nat) (number : UInt64) :
    (seeTo block access target lock).hold number = .inside number lock := by
  rcases seeTo_cases block access target lock with ⟨_, h⟩ | ⟨_, h⟩ | h | ⟨_, h⟩ | ⟨_, h⟩
  all_goals
    rw [h]
    rfl

private theorem MovePhase.lockStep {phase phase' : MovePhase}
    (h : phase.step api clock block target w = some (phase', w')) :
    LockStep (phase.hold block.number) w.locks (phase'.hold block.number) w'.locks := by
  cases phase with
  | start =>
    cases h
    exact .borrow block.number
  | waiting lock =>
    rw [step] at h
    split at h
    · cases h
    · next hfree =>
      cases h
      exact .acquire (Bool.not_eq_true _ ▸ hfree)
  | tracking lock =>
    rw [step] at h
    dsimp only at h
    split at h
    · cases h
      exact .stay
    · cases h
      exact .stay
  | marking lock access =>
    cases h
    rw [hold_seeTo]
    exact .stay
  | asking | storing | fetching | committing =>
    rw [step] at h
    split at h
    all_goals
      next heq =>
        cases h
        exact .onService heq
  | counting | settling | failing =>
    cases h
    exact .stay
  | releasing lock result =>
    cases h
    exact .release
  | dropping lock result =>
    cases h
    exact .drop
  | done result => cases h

/-- An eviction does as a move does, but for its try at the table. -/
theorem EvictPhase.step_locks {number : UInt64} {phase phase' : EvictPhase}
    (h : phase.step number w = some (phase', w')) :
    LockStep (phase.hold number) w.locks (phase'.hold number) w'.locks ∨
      ∃ lock evicted, phase = .forgetting lock evicted ∧ phase' = .dropping lock evicted ∧
        w'.locks = w.locks.forget number := by
  cases phase with
  | start =>
    cases h
    exact Or.inl (.borrow number)
  | waiting lock =>
    rw [step] at h
    split at h
    · cases h
    · next hfree =>
      cases h
      exact Or.inl (.acquire (Bool.not_eq_true _ ▸ hfree))
  | evicting lock =>
    cases h
    exact Or.inl .stay
  | releasing lock evicted =>
    cases h
    exact Or.inl .release
  | forgetting lock evicted =>
    cases h
    exact Or.inr ⟨lock, evicted, rfl, rfl, rfl⟩
  | dropping lock evicted =>
    cases h
    exact Or.inl .drop
  | done evicted => cases h

/-- A sweep that moves a block goes on with the move, or takes its result into the report. -/
theorem SweepPhase.step_moving {rest : List Block} {report : SweepReport} {phase : MovePhase} {phase' : SweepPhase}
    (h : (moving rest report block target phase).step api clock now w = some (phase', w')) :
    (∃ result, phase = .done result ∧ phase' = choosing rest (report.record result) ∧ w' = w) ∨
      ∃ moved, phase.step api clock block target w = some (moved, w') ∧
        phase' = moving rest report block target moved := by
  by_cases hdone : ∃ result, phase = .done result
  · obtain ⟨result, rfl⟩ := hdone
    cases h
    exact Or.inl ⟨result, rfl, rfl, rfl⟩
  · rw [step] at h
    · simp only [Option.map_eq_some_iff, Prod.exists] at h
      obtain ⟨moved, _, hmove, heq⟩ := h
      cases heq
      exact Or.inr ⟨moved, hmove, rfl⟩
    · exact fun result heq => hdone ⟨result, heq⟩

/-- A sweep has a handle only while it moves a block. -/
theorem SweepPhase.lockStep {phase phase' : SweepPhase} (h : phase.step api clock now w = some (phase', w')) :
    LockStep (Task.sweep now phase).hold w.locks (Task.sweep now phase').hold w'.locks := by
  cases phase with
  | start blocks =>
    rw [step] at h
    split at h
    all_goals
      cases h
      exact .stay
  | choosing rest report =>
    cases rest with
    | nil =>
      cases h
      exact .stay
    | cons block rest =>
      rw [step] at h
      dsimp only at h
      split at h
      all_goals
        cases h
        exact .stay
  | moving rest report block target phase =>
    rcases step_moving h with ⟨result, rfl, rfl, rfl⟩ | ⟨moved, hmove, rfl⟩
    · exact .stay
    · exact MovePhase.lockStep hmove
  | done report => cases h

/-- What a step of a task does to the locks. -/
theorem Task.step_locks {t t' : Task} (h : t.step api clock w = some (t', w')) :
    LockStep t.hold w.locks t'.hold w'.locks ∨
      ∃ number lock evicted, t = .evict number (.forgetting lock evicted) ∧
        t' = .evict number (.dropping lock evicted) ∧ w'.locks = w.locks.forget number := by
  cases t with
  | move block target phase =>
    simp only [step, Option.map_eq_some_iff, Prod.exists] at h
    obtain ⟨phase', _, hmove, heq⟩ := h
    cases heq
    exact Or.inl (MovePhase.lockStep hmove)
  | evict number phase =>
    simp only [step, Option.map_eq_some_iff, Prod.exists] at h
    obtain ⟨phase', _, hevict, heq⟩ := h
    cases heq
    obtain hstep | ⟨lock, evicted, rfl, rfl, hforget⟩ := EvictPhase.step_locks hevict
    · exact Or.inl hstep
    · exact Or.inr ⟨number, lock, evicted, rfl, rfl, hforget⟩
  | access block result =>
    cases result with
    | none =>
      cases h
      exact Or.inl .stay
    | some _ => cases h
  | sweep now phase =>
    simp only [step, Option.map_eq_some_iff, Prod.exists] at h
    obtain ⟨phase', _, hsweep, heq⟩ := h
    cases heq
    exact Or.inl (SweepPhase.lockStep hsweep)

end Steps

end TieredLedger
