import Mathlib.Data.List.Chain
import TieredLedger.Proofs.Ledger.Findability

/-! Ledgers over whole runs: whatever is added, and whatever is refused, the blocks stay numbered by their places, linked
and hashed, and no block that is there ever changes. -/
namespace TieredLedger

namespace Block

private theorem verifyHash_rehashed (b : Block) : b.rehashed.verifyHash = true := by
  rw [verifyHash, beq_iff_eq]
  rfl

/-- Keywords are not hashed. -/
theorem verifyHash_keywords (b : Block) (manual auto : List Keyword) :
    { b with manualKeywords := manual, autoKeywords := auto }.verifyHash = b.verifyHash := rfl

end Block

namespace Ledger

inductive Call
  | plain (data : String) (manual auto : List Keyword) (now : Instant)
  | encrypted (entry : Entry)

def Call.run (l : Ledger) : Call → Ledger
  | plain data manual auto now => (l.appendPlain data manual auto now).2
  | encrypted entry => (entry.append l).2

def runAll (l : Ledger) (calls : List Call) : Ledger := calls.foldl Call.run l

variable {blocks : List Block} {b : Block} {l : Ledger}

/-- A block made to follow others. -/
structure Continues (blocks : List Block) (b : Block) : Prop where
  next : ∃ data now, b.number = (nextBlock blocks data now).number ∧
    b.previousHash = (nextBlock blocks data now).previousHash
  hashed : b.verifyHash = true

private theorem nextBlock_continues (blocks : List Block) (data : String) (now : Instant) :
    Continues blocks (nextBlock blocks data now) := by
  refine ⟨⟨data, now, rfl, rfl⟩, ?_⟩
  rw [nextBlock]
  split
  · exact Block.verifyHash_rehashed _
  · exact Block.verifyHash_rehashed _

private theorem Continues.markEncrypted (h : Continues blocks b) : Continues blocks b.markEncrypted :=
  ⟨h.next, Block.verifyHash_rehashed _⟩

private theorem Continues.keywords (h : Continues blocks b) (manual auto : List Keyword) :
    Continues blocks { b with manualKeywords := manual, autoKeywords := auto } :=
  ⟨h.next, (Block.verifyHash_keywords b manual auto).trans h.hashed⟩

/-- A call adds one block at the end, or nothing. -/
theorem Call.run_cases (call : Call) (l : Ledger) :
    call.run l = l ∨ ∃ b, Continues l.blocks b ∧ call.run l = l.push b := by
  cases call with
  | plain data manual auto now =>
    right
    exact ⟨_, (nextBlock_continues l.blocks data now).keywords manual auto, rfl⟩
  | encrypted entry =>
    rw [run, append_apply]
    cases hsealed : entry.sealed l with
    | error fault => exact Or.inl rfl
    | ok b =>
      obtain ⟨-, set, auto, ciphertext, -, -, -, rfl⟩ := sealed_eq_ok.1 hsealed
      right
      exact ⟨_, (nextBlock_continues l.blocks ciphertext entry.now).markEncrypted.keywords _ _, rfl⟩

structure Grown (blocks : List Block) : Prop where
  numbered : Numbered blocks
  begins : blocks.head?.map (·.previousHash) = some genesisPreviousHash
  linked : blocks.IsChain fun p b => b.previousHash = p.hash
  hashed : ∀ b ∈ blocks, b.verifyHash = true

private theorem grown_create (codec : Codec) (now : Instant) : Grown (create codec now).blocks := by
  refine ⟨numbered_create, rfl, List.isChain_singleton _, ?_⟩
  intro b hb
  rw [create, List.mem_singleton] at hb
  subst hb
  exact Block.verifyHash_rehashed _

private theorem Grown.append (h : Grown blocks) (hb : Continues blocks b) : Grown (blocks ++ [b]) := by
  obtain ⟨data, now, hnumber, hprevious⟩ := hb.next
  refine ⟨?_, ?_, ?_, ?_⟩
  · exact h.numbered.append_singleton (hnumber.trans (h.numbered.number_nextBlock data now))
  · have hbegins := h.begins
    cases blocks with
    | nil => cases hbegins
    | cons first rest => exact hbegins
  · rw [List.isChain_append]
    refine ⟨h.linked, List.isChain_singleton b, ?_⟩
    intro last hlast next hnext
    rw [List.head?_singleton, Option.mem_some_iff] at hnext
    subst hnext
    rw [hprevious, nextBlock, Option.mem_def.1 hlast]
    rfl
  · intro a ha
    rcases List.mem_append.1 ha with ha | ha
    · exact h.hashed a ha
    · rw [List.mem_singleton.1 ha]
      exact hb.hashed

private theorem Grown.run (h : Grown l.blocks) (call : Call) : Grown (call.run l).blocks := by
  rcases call.run_cases l with hrun | ⟨b, hb, hrun⟩
  · rw [hrun]
    exact h
  · rw [hrun]
    exact h.append hb

private theorem Grown.runAll (h : Grown l.blocks) (calls : List Call) : Grown (runAll l calls).blocks := by
  induction calls generalizing l with
  | nil => exact h
  | cons call calls ih => exact ih (h.run call)

private theorem Call.prefix_run (call : Call) (l : Ledger) : l.blocks <+: (call.run l).blocks := by
  rcases call.run_cases l with hrun | ⟨b, -, hrun⟩
  · rw [hrun]
  · rw [hrun]
    exact List.prefix_append l.blocks [b]

/-- Hashed and linked blocks pass the check. -/
theorem verifyFrom_of_linked {p : Option Block} (hhashed : ∀ b ∈ blocks, b.verifyHash = true)
    (hlinked : (p.toList ++ blocks).IsChain fun p b => b.previousHash = p.hash) : verifyFrom p blocks = .ok () := by
  induction blocks generalizing p with
  | nil => rfl
  | cons b rest ih =>
    have hrest : verifyFrom (some b) rest = .ok () := by
      refine ih (fun a ha => hhashed a (List.mem_cons_of_mem b ha)) ?_
      exact hlinked.suffix (List.suffix_append _ _)
    unfold verifyFrom
    rw [hhashed b List.mem_cons_self, Bool.not_true, if_neg Bool.false_ne_true]
    cases p with
    | none => exact hrest
    | some q =>
      have hlink : b.previousHash = q.hash := (List.isChain_cons_cons.1 hlinked).1
      dsimp only
      rw [if_pos hlink]
      exact hrest

private theorem Numbered.number_of_getElem? (h : Numbered blocks) {i : Nat} (hb : blocks[i]? = some b) :
    b.number = UInt64.ofNat i := by
  obtain ⟨hi, -⟩ := List.getElem?_eq_some_iff.1 hb
  have hplace := congrArg (·[i]?) h
  simp only [List.getElem?_map, hb, Option.map_some, List.getElem?_range hi, Option.some.injEq] at hplace
  exact hplace

/-- The first block of a number stands in the place of that number. -/
theorem Numbered.find?_number (h : Numbered blocks) (n : UInt64) :
    blocks.find? (fun b => b.number == n) = blocks[n.toNat]? := by
  have hother : ∀ (i : Nat) (b : Block), i < UInt64.size → i ≠ n.toNat → blocks[i]? = some b → (b.number == n) = false := by
    intro i b hi hne hb
    rw [beq_eq_false_iff_ne]
    intro hn
    rw [h.number_of_getElem? hb] at hn
    apply hne
    rw [← hn, UInt64.toNat_ofNat_of_lt' hi]
  by_cases hn : n.toNat < blocks.length
  · rw [List.getElem?_eq_getElem hn, List.find?_eq_some_iff_getElem]
    refine ⟨?_, n.toNat, hn, rfl, ?_⟩
    · rw [h.number_of_getElem? (List.getElem?_eq_getElem hn), UInt64.ofNat_toNat, beq_self_eq_true]
    · intro j hj
      rw [hother j _ (hj.trans n.toNat_lt) hj.ne (List.getElem?_eq_getElem (hj.trans hn))]
      rfl
  · rw [List.getElem?_eq_none (Nat.le_of_not_lt hn), List.find?_eq_none]
    intro b hb
    obtain ⟨i, hi, rfl⟩ := List.mem_iff_getElem.1 hb
    have hlt : i < n.toNat := hi.trans_le (Nat.le_of_not_lt hn)
    rw [hother i _ (hlt.trans n.toNat_lt) hlt.ne (List.getElem?_eq_getElem hi)]
    exact Bool.false_ne_true

/-- What holds of a ledger to which blocks were only ever added. Places beyond what a word can count wrap around. -/
structure Whole (l : Ledger) : Prop where
  numbered : ∀ (i : Nat) (b : Block), l.blocks[i]? = some b → b.number = UInt64.ofNat i
  counted : l.size ≤ UInt64.size → ∀ (i : Nat) (b : Block), l.blocks[i]? = some b → b.number.toNat = i
  begins : l.blocks.head?.map (·.previousHash) = some genesisPreviousHash
  linked : ∀ (i : Nat) (p b : Block), l.blocks[i]? = some p → l.blocks[i + 1]? = some b → b.previousHash = p.hash
  hashed : ∀ b ∈ l.blocks, b.verifyHash = true
  verified : verifyChain l.blocks = .ok ()
  found : ∀ n : UInt64, l.block? n = l.blocks[n.toNat]?

private theorem Grown.whole (h : Grown l.blocks) : Whole l where
  numbered _ _ hb := h.numbered.number_of_getElem? hb
  counted hsize i b hb := by
    obtain ⟨hi, -⟩ := List.getElem?_eq_some_iff.1 hb
    rw [h.numbered.number_of_getElem? hb, UInt64.toNat_ofNat_of_lt' (hi.trans_le hsize)]
  begins := h.begins
  linked i p b hp hb := by
    obtain ⟨hi, rfl⟩ := List.getElem?_eq_some_iff.1 hp
    obtain ⟨hj, rfl⟩ := List.getElem?_eq_some_iff.1 hb
    exact List.isChain_iff_getElem.1 h.linked i hj
  hashed := h.hashed
  verified := verifyFrom_of_linked h.hashed h.linked
  found n := h.numbered.find?_number n

/-- Every run keeps a ledger whole, and the next call, whatever becomes of it, leaves all blocks in their places. -/
theorem runAll_keeps_whole (codec : Codec) (now : Instant) (calls : List Call) :
    Whole (runAll (create codec now) calls) ∧
      ∀ call : Call, (runAll (create codec now) calls).blocks <+: (call.run (runAll (create codec now) calls)).blocks := by
  refine ⟨((grown_create codec now).runAll calls).whole, ?_⟩
  intro call
  exact call.prefix_run _

end Ledger

end TieredLedger
