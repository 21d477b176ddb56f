import TieredLedger.Proofs.Ledger.Commitment

/-! What the hash of one block tells of its contents. Nothing but the flag stands between the previous hash and the
payload, and times that no word can count in nanoseconds are counted in seconds; the hash binds the contents but for what
these two leave open. -/
namespace TieredLedger

/-- Different instants that are one to a hash. -/
inductive Instant.Confused (s t : Instant) : Prop
  /-- Just one of them lies in a leap second, and they count the same nanoseconds. -/
  | leap {n : Int} (hs : s.nanos? = some n) (ht : t.nanos? = some n)
      (h : ¬ (nanosPerSecond ≤ s.nanos ↔ nanosPerSecond ≤ t.nanos))
  /-- Both are counted in seconds, and differ by less. -/
  | seconds (hs : s.nanos? = none) (ht : t.nanos? = none) (h : s.seconds = t.seconds)
  /-- The nanoseconds of the first are as many as the seconds of the second. -/
  | early (hs : s.nanos? = some t.seconds) (ht : t.nanos? = none)
  /-- The seconds of the first are as many as the nanoseconds of the second. -/
  | late (hs : s.nanos? = none) (ht : t.nanos? = some s.seconds)

namespace Block

def flagChar (b : Block) : Char := if b.encrypted then '\u0001' else '\u0000'

variable {a b : Block}

private theorem flagChar_notMem_hexDigits (b : Block) : b.flagChar ∉ Bytes.hexDigits := by
  rw [flagChar]
  cases b.encrypted <;> decide

/-- The previous hash of the second block is that of the first with its flag and the beginning of its payload. -/
def Shifted (a b : Block) : Prop :=
  ∃ between : List Char, b.previousHash.toList = a.previousHash.toList ++ a.flagChar :: between ∧
    a.data.toList = between ++ b.flagChar :: b.data.toList

private theorem Shifted.flag_mem (h : a.Shifted b) : a.flagChar ∈ b.previousHash.toList := by
  obtain ⟨between, hprevious, -⟩ := h
  rw [hprevious]
  exact List.mem_append_right _ List.mem_cons_self

structure SameContents (a b : Block) : Prop where
  number : a.number = b.number
  createdAt : a.createdAt = b.createdAt
  previousHash : a.previousHash = b.previousHash
  encrypted : a.encrypted = b.encrypted
  data : a.data = b.data

/-- Two blocks of which different bytes are hashed to one digest. -/
def Collide (a b : Block) : Prop := a.preimage ≠ b.preimage ∧ Sha256.digest a.preimage = Sha256.digest b.preimage

/-- Two blocks agree in all that a hash tells of its block. -/
structure Indistinct (a b : Block) : Prop where
  number : a.number = b.number
  createdAt : a.createdAt = b.createdAt ∨ a.createdAt.Confused b.createdAt
  texts : (a.previousHash = b.previousHash ∧ a.encrypted = b.encrypted ∧ a.data = b.data) ∨ a.Shifted b ∨ b.Shifted a

/-- Times that a word can hold and previous hashes of hexadecimal digits leave nothing open but leap seconds. -/
theorem Indistinct.sameContents (h : a.Indistinct b) (hatime : a.createdAt.nanos?.isSome = true)
    (hbtime : b.createdAt.nanos?.isSome = true)
    (hleap : nanosPerSecond ≤ a.createdAt.nanos ↔ nanosPerSecond ≤ b.createdAt.nanos)
    (hadigits : ∀ c ∈ a.previousHash.toList, c ∈ Bytes.hexDigits)
    (hbdigits : ∀ c ∈ b.previousHash.toList, c ∈ Bytes.hexDigits) : a.SameContents b := by
  have htime : a.createdAt = b.createdAt := by
    rcases h.createdAt with heq | ⟨-, -, hne⟩ | ⟨hnone, -, -⟩ | ⟨-, hnone⟩ | ⟨hnone, -⟩
    · exact heq
    · exact absurd hleap hne
    · rw [hnone] at hatime
      cases hatime
    · rw [hnone] at hbtime
      cases hbtime
    · rw [hnone] at hatime
      cases hatime
  rcases h.texts with ⟨hprevious, hencrypted, hdata⟩ | hshift | hshift
  · exact ⟨h.number, htime, hprevious, hencrypted, hdata⟩
  · exact absurd (hbdigits _ hshift.flag_mem) a.flagChar_notMem_hexDigits
  · exact absurd (hadigits _ hshift.flag_mem) b.flagChar_notMem_hexDigits

end Block

end TieredLedger
