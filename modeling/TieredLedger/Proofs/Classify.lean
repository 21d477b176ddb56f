import Mathlib.Tactic.SplitIfs
import TieredLedger.Access
import TieredLedger.Proofs.Time

/-! The tier recommended for a block gets no hotter as the block ages and falls out of use, and where the thresholds of a
policy are in order each tier is one band of ages. Leap seconds are the exception, since the time that has passed since
an instant is not counted evenly through them. -/
namespace TieredLedger

variable {policy : Policy} {block block' : Block} {access access' : Access} {now now' : Instant}

/-- A recommendation reads the last access and the number of accesses, and nothing else of a record. -/
theorem classify_congr {a b : Access} (hlast : a.lastAccessed = b.lastAccessed) (hcount : a.count = b.count)
    (block : Block) (policy : Policy) (now : Instant) : classify block a policy now = classify block b policy now := by
  rw [classify, classify, hlast, hcount]

/-- A young block that is read often and was read within a day. -/
def InUse (policy : Policy) (block : Block) (access : Access) (now : Instant) : Prop :=
  block.createdAt.elapsed now < policy.hotThreshold.total ∧ policy.accessThreshold ≤ access.count ∧
    access.lastAccessed.elapsed now < Span.oneDay.total

/-- The rules by which a tier is recommended, the first that fits. The thresholds may be in any order. -/
theorem classify_cases (policy : Policy) (block : Block) (access : Access) (now : Instant) :
    InUse policy block access now ∧ classify block access policy now = .hot ∨
      ¬ InUse policy block access now ∧
        (block.createdAt.elapsed now < policy.warmThreshold.total ∧ classify block access policy now = .warm ∨
          policy.warmThreshold.total ≤ block.createdAt.elapsed now ∧
            (block.createdAt.elapsed now < policy.coldThreshold.total ∧ classify block access policy now = .cold ∨
              policy.coldThreshold.total ≤ block.createdAt.elapsed now ∧
                classify block access policy now = .archive)) := by
  rw [classify, InUse]
  generalize Span.oneDay.total = day
  split_ifs with hhot hwarm hcold
  · exact Or.inl ⟨hhot, rfl⟩
  · exact Or.inr ⟨hhot, Or.inl ⟨hwarm, rfl⟩⟩
  · exact Or.inr ⟨hhot, Or.inr ⟨Nat.le_of_not_lt hwarm, Or.inl ⟨hcold, rfl⟩⟩⟩
  · exact Or.inr ⟨hhot, Or.inr ⟨Nat.le_of_not_lt hwarm, Or.inr ⟨Nat.le_of_not_lt hcold, rfl⟩⟩⟩

private theorem InUse.before (h : InUse policy block' access' now')
    (hage : block.createdAt.elapsed now ≤ block'.createdAt.elapsed now')
    (hidle : access.lastAccessed.elapsed now ≤ access'.lastAccessed.elapsed now')
    (hcount : access'.count ≤ access.count) :
    InUse policy block access now :=
  ⟨Nat.lt_of_le_of_lt hage h.1, UInt64.le_trans h.2.1 hcount, Nat.lt_of_le_of_lt hidle h.2.2⟩

/-- The tier gets no hotter where neither the age nor the idle time shrinks and the accesses are no more. -/
theorem classify_mono (hage : block.createdAt.elapsed now ≤ block'.createdAt.elapsed now')
    (hidle : access.lastAccessed.elapsed now ≤ access'.lastAccessed.elapsed now')
    (hcount : access'.count ≤ access.count) :
    (classify block access policy now).level ≤ (classify block' access' policy now').level := by
  rcases classify_cases policy block access now with ⟨-, h⟩ | ⟨hhot, h⟩
  · rw [h]
    exact Nat.zero_le _
  rcases classify_cases policy block' access' now' with ⟨hhot', -⟩ | ⟨-, h'⟩
  · exact absurd (hhot'.before hage hidle hcount) hhot
  rcases h with ⟨_, h⟩ | ⟨_, ⟨_, h⟩ | ⟨_, h⟩⟩ <;> rcases h' with ⟨_, h'⟩ | ⟨_, ⟨_, h'⟩ | ⟨_, h'⟩⟩ <;>
    rw [h, h'] <;> simp only [Tier.level] <;> omega

/-- One look at a block and another that is no earlier, on a block that is no younger, was read no later and no more
often. -/
structure Staler (block : Block) (access : Access) (now : Instant) (block' : Block) (access' : Access)
    (now' : Instant) : Prop where
  later : now'.before now = false
  older : block.createdAt.before block'.createdAt = false
  idler : access.lastAccessed.before access'.lastAccessed = false
  rarer : access'.count ≤ access.count

/-- Leap seconds stand in the way of neither look: no time is told in one, and a block was made or read in one only if it
ends a day and is not the earlier of two. -/
structure Steady (block : Block) (access : Access) (now : Instant) (block' : Block) (access' : Access)
    (now' : Instant) : Prop where
  told : ¬ now.InLeapSecond ∧ ¬ now'.InLeapSecond
  made : block.createdAt.CountsEvenly ∧ (block'.createdAt = block.createdAt ∨ ¬ block'.createdAt.InLeapSecond)
  read : access.lastAccessed.CountsEvenly ∧
    (access'.lastAccessed = access.lastAccessed ∨ ¬ access'.lastAccessed.InLeapSecond)

private theorem Instant.elapsed_le_of_earlier {since earlier : Instant} (hsince : since.CountsEvenly)
    (hearlier : earlier = since ∨ ¬ earlier.InLeapSecond) (hbefore : since.before earlier = false)
    (hnow : ¬ now.InLeapSecond) (hnow' : ¬ now'.InLeapSecond) (hlater : now'.before now = false) :
    since.elapsed now ≤ earlier.elapsed now' := by
  rcases hearlier with rfl | hearlier
  · exact elapsed_mono hsince hsince (Int.le_refl _) hnow hnow' hlater
  · exact elapsed_mono hsince (.of_not_inLeapSecond hearlier) (ticks_le hearlier hbefore) hnow hnow' hlater

private theorem Staler.classify_le (h : Staler block access now block' access' now')
    (hsteady : Steady block access now block' access' now') :
    (classify block access policy now).level ≤ (classify block' access' policy now').level := by
  obtain ⟨⟨hnow, hnow'⟩, hmade, hread⟩ := hsteady
  apply classify_mono
  · exact Instant.elapsed_le_of_earlier hmade.1 hmade.2 h.older hnow hnow' h.later
  · exact Instant.elapsed_le_of_earlier hread.1 hread.2 h.idler hnow hnow' h.later
  · exact h.rarer

/-- A policy passes its check exactly if its thresholds are positive and increase. -/
theorem Policy.validate_eq_ok : policy.validate = .ok () ↔ 0 < policy.hotThreshold.total ∧
    policy.hotThreshold.total < policy.warmThreshold.total ∧ policy.warmThreshold.total < policy.coldThreshold.total := by
  rw [validate]
  split_ifs <;> simp <;> omega

/-- Each tier is recommended for one band of ages, and the hottest only for blocks that are in use. -/
structure InBands (policy : Policy) (block : Block) (access : Access) (now : Instant) : Prop where
  archive : classify block access policy now = .archive ↔ policy.coldThreshold.total ≤ block.createdAt.elapsed now
  cold : classify block access policy now = .cold ↔ policy.warmThreshold.total ≤ block.createdAt.elapsed now ∧
    block.createdAt.elapsed now < policy.coldThreshold.total
  warm : classify block access policy now = .warm ↔ block.createdAt.elapsed now < policy.warmThreshold.total ∧
    ¬ InUse policy block access now
  hot : classify block access policy now = .hot ↔ InUse policy block access now

/-- Thresholds that increase leave no gap between the bands and no overlap. -/
theorem inBands_of_validate (h : policy.validate = .ok ()) (block : Block) (access : Access) (now : Instant) :
    InBands policy block access now := by
  obtain ⟨-, hwarm, hcold⟩ := Policy.validate_eq_ok.1 h
  rcases classify_cases policy block access now with ⟨hhot, h⟩ | ⟨hhot, h⟩
  · have hyoung := hhot.1
    constructor <;> rw [h] <;> simp [hhot] <;> omega
  · rcases h with ⟨_, h⟩ | ⟨_, ⟨_, h⟩ | ⟨_, h⟩⟩
    all_goals constructor <;> rw [h] <;> simp [hhot] <;> omega

/-- A staler look at a block recommends no hotter tier, whatever the policy: always where its age and its idle time do not
shrink, and so where leap seconds do not stand in the way. Thresholds in order make each tier one band of ages, which
are exact to the nanosecond. -/
theorem classify_cools_in_bands (policy : Policy) (block block' : Block) (access access' : Access)
    (now now' : Instant) :
    (block.createdAt.elapsed now ≤ block'.createdAt.elapsed now' →
      access.lastAccessed.elapsed now ≤ access'.lastAccessed.elapsed now' → access'.count ≤ access.count →
        (classify block access policy now).level ≤ (classify block' access' policy now').level) ∧
    (Staler block access now block' access' now' → Steady block access now block' access' now' →
      (classify block access policy now).level ≤ (classify block' access' policy now').level) ∧
    (policy.validate = .ok () → InBands policy block access now) ∧
    ∀ since : Instant, since.CountsEvenly → ¬ now.InLeapSecond →
      since.elapsed now = (now.ticks - since.ticks).toNat :=
  ⟨classify_mono, Staler.classify_le, fun h => inBands_of_validate h block access now,
    fun _ hsince hnow => Instant.elapsed_eq hsince hnow⟩

def Block.madeAt (t : Instant) : Block := { (default : Block) with createdAt := t }

def Access.readAt (t : Instant) (count : UInt64) : Access :=
  { (default : Access) with lastAccessed := t, count := count }

/-- A block that is a nanosecond short of a week and in use is hot; one that is ninety days old to the nanosecond is
archived. -/
theorem aging_block_cools : ∃ block access now block' access' now',
    Staler block access now block' access' now' ∧ classify block access .standard now = .hot ∧
      classify block' access' .standard now' = .archive ∧
      (classify block access .standard now).level ≤ (classify block' access' .standard now').level := by
  let block := Block.madeAt { seconds := 0, nanos := 0 }
  let access := Access.readAt { seconds := 600000, nanos := 0 } 6
  let now : Instant := { seconds := 604799, nanos := 999999999 }
  let block' := Block.madeAt { seconds := -1, nanos := 999999999 }
  let access' := Access.readAt { seconds := 5, nanos := 1 } 2
  let now' : Instant := { seconds := 7775999, nanos := 999999999 }
  have hstaler : Staler block access now block' access' now' := by constructor <;> decide +kernel
  have hsteady : Steady block access now block' access' now' :=
    ⟨by decide, ⟨.of_not_inLeapSecond (by decide), Or.inr (by decide)⟩, .of_not_inLeapSecond (by decide), Or.inr (by decide)⟩
  obtain ⟨-, hcools, hbands, hage⟩ := classify_cools_in_bands .standard block block' access access' now now'
  obtain ⟨-, -, hbands', hage'⟩ := classify_cools_in_bands .standard block' block access' access now' now
  have hvalid : Policy.standard.validate = .ok () := Policy.validate_eq_ok.2 (by decide +kernel)
  refine ⟨block, access, now, block', access', now', hstaler, (hbands hvalid).hot.2 ⟨?_, ?_, ?_⟩,
    (hbands' hvalid).archive.2 ?_, hcools hstaler hsteady⟩
  · rw [hage _ hsteady.made.1 hsteady.told.1]
    decide
  · decide
  · rw [hage _ hsteady.read.1 hsteady.told.1]
    decide
  · rw [hage' _ (.of_not_inLeapSecond (by decide)) hsteady.told.2]
    decide

/-- Leap seconds make a staler look recommend a hotter tier: a look half a second after the leap second at the end of
2016 instead of in it, a block that was made in that leap second instead of at new year, and a block that was read in it
instead of at new year. -/
theorem leap_seconds_heat : ∃ policy : Policy, policy.validate = .ok () ∧
    (∃ block access now now', Staler block access now block access now' ∧
      classify block access policy now = .warm ∧ classify block access policy now' = .hot) ∧
    (∃ block block' access now, Staler block access now block' access now ∧
      classify block access policy now = .warm ∧ classify block' access policy now = .hot) ∧
    ∃ block access access' now, Staler block access now block access' now ∧
      classify block access policy now = .warm ∧ classify block access' policy now = .hot := by
  let leap : Instant := { seconds := 1483228799, nanos := 1500000000 }
  let newYear : Instant := { seconds := 1483228800, nanos := 0 }
  let minutesLater : Instant := { seconds := 1483228920, nanos := 0 }
  let dayLater : Instant := { seconds := 1483315200, nanos := 0 }
  let minutesBefore : Instant := { seconds := 1483228680, nanos := 500000000 }
  refine ⟨{ Policy.standard with hotThreshold := .ofSeconds 120, accessThreshold := 0 },
    Policy.validate_eq_ok.2 ?_,
    ⟨.madeAt minutesBefore, .readAt newYear 0, leap, newYear, ⟨?_, ?_, ?_, ?_⟩, ?_, ?_⟩,
    ⟨.madeAt newYear, .madeAt leap, .readAt newYear 0, minutesLater, ⟨?_, ?_, ?_, ?_⟩, ?_, ?_⟩,
    .madeAt dayLater, .readAt newYear 0, .readAt leap 0, dayLater, ⟨?_, ?_, ?_, ?_⟩, ?_, ?_⟩
  all_goals decide +kernel

end TieredLedger
