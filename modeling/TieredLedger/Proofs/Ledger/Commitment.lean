import Mathlib.Data.List.Forall2
import TieredLedger.Ledger
import TieredLedger.Proofs.Bytes

/-! The hash of the last block commits to the chain: two chains that end in one hash agree, or they hold a collision. -/
namespace TieredLedger

namespace Instant

/-- Instants that count the same nanoseconds are equal, unless just one of them lies in a leap second. -/
theorem eq_of_nanos? {s t : Instant} {n : Int} (hs : s.nanos? = some n) (ht : t.nanos? = some n)
    (hleap : nanosPerSecond ≤ s.nanos ↔ nanosPerSecond ≤ t.nanos) : s = t := by
  obtain ⟨sseconds, snanos, _, _, hslt⟩ := s
  obtain ⟨tseconds, tnanos, _, _, htlt⟩ := t
  rw [nanos?, Option.ite_none_right_eq_some, Option.some.injEq] at hs ht
  dsimp only [nanosPerSecond] at hs ht hleap
  have hsize : nanosPerSecond = 1000000000 := rfl
  have hseconds : sseconds = tseconds := by omega
  have hnanos : snanos = tnanos := by omega
  subst hseconds hnanos
  rfl

/-- A count of nanoseconds that is given fits in 64 bits with a sign. -/
theorem nanos?_range {t : Instant} {n : Int} (h : t.nanos? = some n) :
    -9223372036854775808 ≤ n ∧ n ≤ 9223372036854775807 := by
  rw [nanos?, Option.ite_none_right_eq_some] at h
  obtain ⟨hrange, hn⟩ := h
  rw [Option.some.injEq] at hn
  rwa [hn] at hrange

end Instant

namespace Block

/-- Numbers that fit in 64 bits with a sign have words of their own. -/
theorem ofInt_inj {m n : Int} (hm : -9223372036854775808 ≤ m ∧ m ≤ 9223372036854775807)
    (hn : -9223372036854775808 ≤ n ∧ n ≤ 9223372036854775807) (h : UInt64.ofInt m = UInt64.ofInt n) : m = n := by
  have hnat := congrArg UInt64.toNat h
  rw [UInt64.ofInt, UInt64.ofInt, UInt64.toNat_ofNat', UInt64.toNat_ofNat'] at hnat
  omega

/-- The times that a word can hold are told by their word up to leap seconds. -/
theorem nanos?_eq_of_timeWord {s t : Instant} (hs : s.nanos?.isSome = true) (ht : t.nanos?.isSome = true)
    (h : timeWord s = timeWord t) : s.nanos? = t.nanos? := by
  obtain ⟨m, hm⟩ := Option.isSome_iff_exists.1 hs
  obtain ⟨n, hn⟩ := Option.isSome_iff_exists.1 ht
  rw [timeWord, timeWord, hm, hn, Option.getD_some, Option.getD_some] at h
  rw [hm, hn, ofInt_inj (Instant.nanos?_range hm) (Instant.nanos?_range hn) h]

def flagByte (b : Block) : UInt8 := if b.encrypted then 1 else 0

variable {a b : Block}

private theorem flagByte_lt (b : Block) : b.flagByte < 48 := by
  rw [flagByte]
  split <;> decide

private theorem flagByte_inj : a.flagByte = b.flagByte ↔ a.encrypted = b.encrypted := by
  rw [flagByte, flagByte]
  cases a.encrypted <;> cases b.encrypted <;> decide

/-- Number and time have fixed places in what is hashed; the rest runs together. -/
theorem preimage_eq_iff : a.preimage = b.preimage ↔
    a.number = b.number ∧ timeWord a.createdAt = timeWord b.createdAt ∧
      Bytes.ofText a.previousHash ++ a.flagByte :: Bytes.ofText a.data =
        Bytes.ofText b.previousHash ++ b.flagByte :: Bytes.ofText b.data := by
  have hsplit : ∀ c : Block, c.preimage = Bytes.be64 c.number ++ (Bytes.be64 (timeWord c.createdAt) ++
      (Bytes.ofText c.previousHash ++ c.flagByte :: Bytes.ofText c.data)) := by
    intro c
    simp only [preimage, flagByte, List.append_assoc, List.singleton_append]
  rw [hsplit, hsplit]
  constructor
  · intro h
    obtain ⟨hnumber, h⟩ := List.append_inj h rfl
    obtain ⟨htime, h⟩ := List.append_inj h rfl
    exact ⟨Bytes.be64_inj.1 hnumber, Bytes.be64_inj.1 htime, h⟩
  · rintro ⟨hnumber, htime, h⟩
    rw [hnumber, htime, h]

/-- Blocks whose previous hashes have one length are told by what is hashed of them. -/
theorem eq_of_preimage_eq (hlength : (Bytes.ofText a.previousHash).length = (Bytes.ofText b.previousHash).length)
    (h : a.preimage = b.preimage) : a.number = b.number ∧ timeWord a.createdAt = timeWord b.createdAt ∧
      a.previousHash = b.previousHash ∧ a.encrypted = b.encrypted ∧ a.data = b.data := by
  obtain ⟨hnumber, htime, h⟩ := preimage_eq_iff.1 h
  obtain ⟨hprevious, h⟩ := List.append_inj h hlength
  obtain ⟨hflag, hdata⟩ := List.cons.inj h
  exact ⟨hnumber, htime, Bytes.ofText_inj.1 hprevious, flagByte_inj.1 hflag, Bytes.ofText_inj.1 hdata⟩

private theorem preimage_rehashed (b : Block) : b.rehashed.preimage = b.preimage := rfl

/-- A new block has the hash of its contents. -/
theorem hash_create (number : UInt64) (previousHash data : String) (now : Instant) :
    (create number previousHash data now).hash = (create number previousHash data now).computeHash := by
  rw [computeHash, create, preimage_rehashed]
  rfl

/-- A new block passes its check. -/
theorem verifyHash_create (number : UInt64) (previousHash data : String) (now : Instant) :
    (create number previousHash data now).verifyHash = true := by
  rw [verifyHash, beq_iff_eq, hash_create]

/-- Two blocks with one hash were hashed from the same bytes, or from different bytes with one digest. -/
theorem preimage_eq_or_digest_eq (ha : a.hash = a.computeHash) (hb : b.hash = b.computeHash) (hhash : a.hash = b.hash) :
    a.preimage = b.preimage ∨ (a.preimage ≠ b.preimage ∧ Sha256.digest a.preimage = Sha256.digest b.preimage) := by
  by_cases hpreimage : a.preimage = b.preimage
  · exact Or.inl hpreimage
  · rw [ha, hb, computeHash, computeHash, Sha256.hexDigest, Sha256.hexDigest, Bytes.hex_inj] at hhash
    exact Or.inr ⟨hpreimage, hhash⟩

end Block

namespace Ledger

/-- Two blocks agree in all that their hashes cover. Their times agree as counts of nanoseconds, so that they are equal
unless just one of them lies in a leap second. -/
structure Agree (a b : Block) : Prop where
  number : a.number = b.number
  nanos : a.createdAt.nanos? = b.createdAt.nanos?
  createdAt : (nanosPerSecond ≤ a.createdAt.nanos ↔ nanosPerSecond ≤ b.createdAt.nanos) → a.createdAt = b.createdAt
  previousHash : a.previousHash = b.previousHash
  encrypted : a.encrypted = b.encrypted
  data : a.data = b.data

/-- Two chains hold a collision: two of their blocks hash different bytes to one digest. -/
def Collide (as bs : List Block) : Prop :=
  ∃ a ∈ as, ∃ b ∈ bs, a.preimage ≠ b.preimage ∧ Sha256.digest a.preimage = Sha256.digest b.preimage

/-- A chain that passes its check, begins as a ledger does, and has only times that a word can hold. -/
structure Sound (blocks : List Block) : Prop where
  verified : verifyChain blocks = .ok ()
  begins : blocks.head?.map (·.previousHash) = some genesisPreviousHash
  timed : ∀ b ∈ blocks, b.createdAt.nanos?.isSome = true

/-- A checked chain, last block first. -/
inductive Linked : List Block → Prop
  | first {b : Block} (hash : b.hash = b.computeHash) (begins : b.previousHash = genesisPreviousHash) : Linked [b]
  | next {b p : Block} {rest : List Block} (hash : b.hash = b.computeHash) (link : b.previousHash = p.hash)
      (before : Linked (p :: rest)) : Linked (b :: p :: rest)

private theorem Linked.hash_head {b : Block} {rest : List Block} (h : Linked (b :: rest)) : b.hash = b.computeHash := by
  cases h with
  | first hash _ => exact hash
  | next hash _ _ => exact hash

private theorem verifyFrom_cons {p : Option Block} {b : Block} {rest : List Block}
    (h : verifyFrom p (b :: rest) = .ok ()) :
    b.hash = b.computeHash ∧ (∀ q ∈ p, b.previousHash = q.hash) ∧ verifyFrom (some b) rest = .ok () := by
  unfold verifyFrom at h
  by_cases hhash : b.verifyHash = true
  · rw [hhash, Bool.not_true, if_neg Bool.false_ne_true] at h
    rw [Block.verifyHash, beq_iff_eq] at hhash
    cases p with
    | none => exact ⟨hhash, by simp, h⟩
    | some q =>
      dsimp only at h
      split at h
      · next hlink => exact ⟨hhash, by simpa using hlink, h⟩
      · cases h
  · rw [Bool.not_eq_true] at hhash
    rw [hhash] at h
    cases h

private theorem linked_of_verifyFrom {p : Block} {before blocks : List Block} (hbefore : Linked (p :: before))
    (h : verifyFrom (some p) blocks = .ok ()) : Linked (blocks.reverse ++ p :: before) := by
  induction blocks generalizing p before with
  | nil => exact hbefore
  | cons b rest ih =>
    obtain ⟨hhash, hlink, hrest⟩ := verifyFrom_cons h
    rw [List.reverse_cons, List.append_assoc]
    exact ih (.next hhash (hlink p rfl) hbefore) hrest

private theorem Sound.linked {blocks : List Block} (h : Sound blocks) : Linked blocks.reverse := by
  cases blocks with
  | nil => cases h.begins
  | cons b rest =>
    obtain ⟨hhash, _, hrest⟩ := verifyFrom_cons h.verified
    rw [List.reverse_cons]
    exact linked_of_verifyFrom (.first hhash (Option.some.inj h.begins)) hrest

variable {a b p : Block} {as bs : List Block}

private theorem agree_of_preimage_eq (hatime : a.createdAt.nanos?.isSome = true)
    (hbtime : b.createdAt.nanos?.isSome = true)
    (hlength : (Bytes.ofText a.previousHash).length = (Bytes.ofText b.previousHash).length)
    (h : a.preimage = b.preimage) : Agree a b := by
  obtain ⟨hnumber, htime, hprevious, hencrypted, hdata⟩ := Block.eq_of_preimage_eq hlength h
  have hnanos := Block.nanos?_eq_of_timeWord hatime hbtime htime
  refine ⟨hnumber, hnanos, fun hleap => ?_, hprevious, hencrypted, hdata⟩
  obtain ⟨n, hn⟩ := Option.isSome_iff_exists.1 hatime
  exact Instant.eq_of_nanos? hn (hnanos ▸ hn) hleap

private theorem preimage_first_ne_next (ha : a.previousHash = genesisPreviousHash) (hb : b.previousHash = p.hash)
    (hp : p.hash = p.computeHash) : a.preimage ≠ b.preimage := by
  intro h
  obtain ⟨-, -, h⟩ := Block.preimage_eq_iff.1 h
  have hgenesis : Bytes.ofText genesisPreviousHash = [48] := by decide
  obtain ⟨hlength, hdigits⟩ := Bytes.ofText_hex (Sha256.digest p.preimage)
  rw [ha, hgenesis, hb, hp, Block.computeHash, Sha256.hexDigest] at h
  cases hbytes : Bytes.ofText (Bytes.hex (Sha256.digest p.preimage)) with
  | nil =>
    rw [hbytes] at hlength
    cases hlength
  | cons first rest =>
    cases rest with
    | nil =>
      rw [hbytes] at hlength
      cases hlength
    | cons second rest =>
      rw [hbytes] at h hdigits
      have hflag : a.flagByte = second := by
        simp only [List.cons_append, List.nil_append, List.cons.injEq] at h
        exact h.2.1
      have hlow := a.flagByte_lt
      have hhigh := hdigits second (by simp)
      rw [hflag] at hlow
      exact absurd hhigh (UInt8.not_le.2 hlow)

private theorem length_previousHash (hb : b.previousHash = p.hash) (hp : p.hash = p.computeHash) :
    (Bytes.ofText b.previousHash).length = 64 := by
  rw [hb, hp, Block.computeHash, Sha256.hexDigest, (Bytes.ofText_hex _).1, Sha256.length_digest]
  rfl

private theorem preimage_eq_or_collide (ha : a.hash = a.computeHash) (hb : b.hash = b.computeHash)
    (hhash : a.hash = b.hash) : a.preimage = b.preimage ∨ Collide (a :: as) (b :: bs) := by
  rcases Block.preimage_eq_or_digest_eq ha hb hhash with hpreimage | hcollide
  · exact Or.inl hpreimage
  · exact Or.inr ⟨a, List.mem_cons_self, b, List.mem_cons_self, hcollide⟩

private theorem Collide.cons (h : Collide as bs) : Collide (a :: as) (b :: bs) := by
  obtain ⟨x, hx, y, hy, hne, hdigest⟩ := h
  exact ⟨x, List.mem_cons_of_mem a hx, y, List.mem_cons_of_mem b hy, hne, hdigest⟩

/-- Down from the last blocks, equal hashes make equal contents, which hold the hashes of the blocks before. -/
theorem agree_or_collide (has : Linked as) (hbs : Linked bs) (hatimes : ∀ a ∈ as, a.createdAt.nanos?.isSome = true)
    (hbtimes : ∀ b ∈ bs, b.createdAt.nanos?.isSome = true)
    (htip : as.head?.map (·.hash) = bs.head?.map (·.hash)) : List.Forall₂ Agree as bs ∨ Collide as bs := by
  -- Down both chains at once from their tips. A chain that ends earlier would need a first block that is hashed like a
  -- later one, so the mixed cases leave only a collision.
  induction has generalizing bs with
  | @first a hahash habegins =>
    have hatime := hatimes a List.mem_cons_self
    cases hbs with
    | @first b hbhash hbbegins =>
      rcases preimage_eq_or_collide hahash hbhash (Option.some.inj htip) with hpreimage | hcollide
      · have hlength : (Bytes.ofText a.previousHash).length = (Bytes.ofText b.previousHash).length := by
          rw [habegins, hbbegins]
        exact Or.inl (.cons (agree_of_preimage_eq hatime (hbtimes b List.mem_cons_self) hlength hpreimage) .nil)
      · exact Or.inr hcollide
    | @next b q bs hbhash hblink hbbefore =>
      rcases preimage_eq_or_collide hahash hbhash (Option.some.inj htip) with hpreimage | hcollide
      · exact absurd hpreimage (preimage_first_ne_next habegins hblink hbbefore.hash_head)
      · exact Or.inr hcollide
  | @next a p as hahash halink habefore ih =>
    have hatime := hatimes a List.mem_cons_self
    cases hbs with
    | @first b hbhash hbbegins =>
      rcases preimage_eq_or_collide hahash hbhash (Option.some.inj htip) with hpreimage | hcollide
      · exact absurd hpreimage.symm (preimage_first_ne_next hbbegins halink habefore.hash_head)
      · exact Or.inr hcollide
    | @next b q bs hbhash hblink hbbefore =>
      rcases preimage_eq_or_collide hahash hbhash (Option.some.inj htip) with hpreimage | hcollide
      · have hlength : (Bytes.ofText a.previousHash).length = (Bytes.ofText b.previousHash).length := by
          rw [length_previousHash halink habefore.hash_head, length_previousHash hblink hbbefore.hash_head]
        have hagree := agree_of_preimage_eq hatime (hbtimes b List.mem_cons_self) hlength hpreimage
        have hbefore : (p :: as).head?.map (·.hash) = (q :: bs).head?.map (·.hash) := by
          simp only [List.head?_cons, Option.map_some, ← halink, ← hblink, hagree.previousHash]
        rcases ih hbbefore (fun a ha => hatimes a (List.mem_cons_of_mem _ ha))
          (fun b hb => hbtimes b (List.mem_cons_of_mem _ hb)) hbefore with hrest | hcollide
        · exact Or.inl (.cons hagree hrest)
        · exact Or.inr hcollide.cons
      · exact Or.inr hcollide

/-- The hash of the last block commits to the whole chain: sound chains of any lengths that end in the same hash agree
block by block, or else two of their blocks collide. -/
theorem tip_commits_to_chain (has : Sound as) (hbs : Sound bs)
    (htip : as.getLast?.map (·.hash) = bs.getLast?.map (·.hash)) : List.Forall₂ Agree as bs ∨ Collide as bs := by
  have hreverse := agree_or_collide has.linked hbs.linked (fun a ha => has.timed a (List.mem_reverse.1 ha))
    (fun b hb => hbs.timed b (List.mem_reverse.1 hb)) (by rwa [List.head?_reverse, List.head?_reverse])
  rcases hreverse with hagree | ⟨a, ha, b, hb, hcollide⟩
  · exact Or.inl (List.forall₂_reverse_iff.1 hagree)
  · exact Or.inr ⟨a, List.mem_reverse.1 ha, b, List.mem_reverse.1 hb, hcollide⟩

def single (createdAt : Instant) : List Block := [Block.create 0 genesisPreviousHash "x" createdAt]

def leapSecond : Instant := { seconds := 1483228799, nanos := 1500000000 }

def newYear : Instant := { seconds := 1483228800, nanos := 500000000 }

private theorem sound_single {t : Instant} (ht : t.nanos?.isSome = true) : Sound (single t) where
  verified := by
    rw [single, verifyChain, verifyFrom, Block.verifyHash_create]
    rfl
  begins := rfl
  timed b hb := by
    rw [single, List.mem_singleton] at hb
    subst hb
    exact ht

private theorem tip_single (t : Instant) :
    (single t).getLast?.map (·.hash) = some (Sha256.hexDigest (Block.create 0 genesisPreviousHash "x" t).preimage) :=
  congrArg some (Block.hash_create 0 genesisPreviousHash "x" t)

private theorem nanos?_leapSecond : leapSecond.nanos? = some 1483228800500000000 := by decide

private theorem nanos?_newYear : newYear.nanos? = some 1483228800500000000 := by decide

private theorem preimage_leapSecond : (Block.create 0 genesisPreviousHash "x" leapSecond).preimage =
    (Block.create 0 genesisPreviousHash "x" newYear).preimage := by
  have htime : Block.timeWord leapSecond = Block.timeWord newYear := by
    rw [Block.timeWord, Block.timeWord, nanos?_leapSecond, nanos?_newYear, Option.getD_some, Option.getD_some]
  exact Block.preimage_eq_iff.2 ⟨rfl, htime, rfl⟩

private theorem sound_leapSecond : Sound (single leapSecond) := sound_single (by rw [nanos?_leapSecond]; rfl)

private theorem sound_newYear : Sound (single newYear) := sound_single (by rw [nanos?_newYear]; rfl)

private theorem tip_leapSecond :
    (single leapSecond).getLast?.map (·.hash) = (single newYear).getLast?.map (·.hash) := by
  rw [tip_single, tip_single, preimage_leapSecond]

def continued (first : Block) : List Block :=
  let second := Block.create 1 first.hash "y" newYear
  [first, second, Block.create 2 second.hash "z" newYear]

private theorem sound_continued {t : Instant} (ht : t.nanos?.isSome = true) :
    Sound (continued (Block.create 0 genesisPreviousHash "x" t)) where
  verified := by
    have hlink : ∀ number previous data, (Block.create number previous data newYear).previousHash = previous :=
      fun _ _ _ => rfl
    simp only [continued, verifyChain, verifyFrom, Block.verifyHash_create, Bool.not_true, Bool.false_eq_true, if_false,
      hlink, if_true]
  begins := rfl
  timed b hb := by
    simp only [continued, List.mem_cons, List.not_mem_nil, or_false] at hb
    rcases hb with rfl | rfl | rfl
    · exact ht
    · exact congrArg Option.isSome nanos?_newYear
    · exact congrArg Option.isSome nanos?_newYear

private theorem tip_continued {a b : Block} (h : a.hash = b.hash) :
    (continued a).getLast?.map (·.hash) = (continued b).getLast?.map (·.hash) := by
  simp only [continued, h, List.getLast?_cons_cons]

/-- Chains of three blocks whose first blocks were created in a leap second and in the second after it. -/
theorem tip_commits_to_continued :
    let as := continued (Block.create 0 genesisPreviousHash "x" leapSecond)
    let bs := continued (Block.create 0 genesisPreviousHash "x" newYear)
    Sound as ∧ Sound bs ∧ as.getLast?.map (·.hash) = bs.getLast?.map (·.hash) ∧
      (List.Forall₂ Agree as bs ∨ Collide as bs) := by
  have has : Sound (continued (Block.create 0 genesisPreviousHash "x" leapSecond)) :=
    sound_continued (by rw [nanos?_leapSecond]; rfl)
  have hbs : Sound (continued (Block.create 0 genesisPreviousHash "x" newYear)) :=
    sound_continued (by rw [nanos?_newYear]; rfl)
  have hhash : (Block.create 0 genesisPreviousHash "x" leapSecond).hash =
      (Block.create 0 genesisPreviousHash "x" newYear).hash := by
    rw [Block.hash_create, Block.hash_create, Block.computeHash, Block.computeHash, preimage_leapSecond]
  exact ⟨has, hbs, tip_continued hhash, tip_commits_to_chain has hbs (tip_continued hhash)⟩

/-- A hash does not tell a leap second from the second after it: these chains end in one hash without a collision, but
their blocks were created at different times. -/
theorem tip_misses_leap_second :
    Sound (single leapSecond) ∧ Sound (single newYear) ∧
      (single leapSecond).getLast?.map (·.hash) = (single newYear).getLast?.map (·.hash) ∧
      ¬ (List.Forall₂ (fun a b => a.number = b.number ∧ a.createdAt = b.createdAt ∧ a.previousHash = b.previousHash ∧
          a.encrypted = b.encrypted ∧ a.data = b.data) (single leapSecond) (single newYear) ∨
        Collide (single leapSecond) (single newYear)) := by
  refine ⟨sound_leapSecond, sound_newYear, tip_leapSecond, ?_⟩
  rintro (hagree | ⟨a, ha, b, hb, hne, -⟩)
  · cases hagree with
    | cons hpair _ =>
      have htime : leapSecond = newYear := hpair.2.1
      revert htime
      decide
  · rw [single, List.mem_singleton] at ha hb
    rw [ha, hb] at hne
    exact hne preimage_leapSecond

end Ledger

end TieredLedger
