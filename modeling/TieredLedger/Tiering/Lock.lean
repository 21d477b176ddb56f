import Std.Data.TreeMap
import Std.Data.TreeSet

/-! Locks of blocks: a table from block numbers to locks, and the handles that tasks hold to them. A lock lives on as
long as somebody has a handle to it, also when the table has forgotten it. -/
namespace TieredLedger

structure Locks where
  /-- The lock of a block. -/
  table : Std.TreeMap UInt64 Nat
  /-- How many handles to a lock tasks hold, the table not counted. -/
  handles : Std.TreeMap Nat Nat
  /-- The locks that somebody holds locked. -/
  locked : Std.TreeSet Nat
  /-- The next new lock. -/
  next : Nat

namespace Locks

def empty : Locks := ⟨∅, ∅, ∅, 0⟩

instance : Inhabited Locks := ⟨empty⟩

def handleCount (l : Locks) (lock : Nat) : Nat := l.handles[lock]?.getD 0

def borrow (l : Locks) (number : UInt64) : Nat × Locks :=
  match l.table[number]? with
  | some lock => (lock, { l with handles := l.handles.insert lock (l.handleCount lock + 1) })
  | none =>
    (l.next, { l with
      table := l.table.insert number l.next
      handles := l.handles.insert l.next 1
      next := l.next + 1 })

def isLocked (l : Locks) (lock : Nat) : Bool := l.locked.contains lock

def acquire (l : Locks) (lock : Nat) : Locks := { l with locked := l.locked.insert lock }

def release (l : Locks) (lock : Nat) : Locks := { l with locked := l.locked.erase lock }

def giveBack (l : Locks) (lock : Nat) : Locks :=
  { l with handles := l.handles.insert lock (l.handleCount lock - 1) }

/-- Forgets the lock of a block, unless more than two handles to it are left, that of the table among them. -/
def forget (l : Locks) (number : UInt64) : Locks :=
  match l.table[number]? with
  | none => l
  | some lock => if l.handleCount lock + 1 ≤ 2 then { l with table := l.table.erase number } else l

end Locks

end TieredLedger
