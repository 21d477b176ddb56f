import TieredLedger.Proofs.Tiering.Sweep

/-! Sweeps one after another only cool: once the first has put the blocks in their places, no later one tries to bring a
block to a warmer tier. Leap seconds are the exception, since the time that has passed since an instant is not counted
evenly through them. -/
namespace TieredLedger

private theorem Tier.level_injective {t t' : Tier} (h : t.level = t'.level) : t = t' := by
  revert h
  cases t <;> cases t' <;> decide

private theorem Tier.isColderThan_iff {t t' : Tier} : t.isColderThan t' = true ↔ t'.level < t.level := by
  rw [isColderThan, decide_eq_true_iff]

private theorem Tier.level_lt_of_isOffChain {t t' : Tier} (ht : t.isOffChain = false) (ht' : t'.isOffChain = true) :
    t.level < t'.level := by
  revert ht ht'
  cases t <;> cases t' <;> decide

variable {now now' : Instant} {block : Block} {access : Access} {policy : Policy}

namespace Service

variable {σ : Type} {blocks : List Block} {s after : Service σ} {results : List MoveResult}

/-- A move that a sweep tries: from the tier of the block to another one that is recommended for it. On the chain it
does not fail. -/
structure Tries (now : Instant) (s : Service σ) (block : Block) (r : MoveResult) : Prop where
  number : r.number = block.number
  origin : r.origin = (s.recordOf now block).tier
  target : r.target = s.recommended now block
  leaves : r.target ≠ r.origin
  stuck : r.success = false → r.origin.isOffChain = true ∨ r.target.isOffChain = true

private theorem Visited.tries {result? : Option MoveResult} (h : Visited now s block result? after) {r : MoveResult}
    (hr : r ∈ result?) : Tries now s block r := by
  obtain ⟨hnumber, horigin, htarget⟩ := h.names r hr
  refine ⟨hnumber, horigin, htarget, ?_, fun hfailed => (h.failed r hr hfailed).2.2⟩
  have htried := h.tried
  rw [Option.mem_def.1 hr, Option.isSome_some, misplaced, eq_comm, decide_eq_true_iff] at htried
  rw [horigin, htarget]
  exact htried

private theorem Sweeps.tries (h : Sweeps now s blocks results after) (hdistinct : (blocks.map (·.number)).Nodup)
    {r : MoveResult} (hr : r ∈ results) : ∃ block ∈ blocks, Tries now s block r := by
  induction h with
  | done => cases hr
  | @visit s between after first blocks result? results visited rest ih =>
    rw [List.map_cons, List.nodup_cons] at hdistinct
    rcases List.mem_append.1 hr with hr | hr
    · exact ⟨first, List.mem_cons_self, visited.tries (Option.mem_toList.1 hr)⟩
    · obtain ⟨block, hmem, htries⟩ := ih hdistinct.2 hr
      have hsame := visited.others _ (number_ne_of_mem hdistinct.1 hmem)
      refine ⟨block, List.mem_cons_of_mem _ hmem, htries.number, ?_, ?_, htries.leaves, htries.stuck⟩
      · rw [htries.origin, recordOf_congr hsame visited.policy]
      · rw [htries.target, recommended_congr hsame visited.policy]

/-- A tracked block that is in no colder tier than the one recommended for it. -/
structure Cooling (now : Instant) (s : Service σ) (block : Block) (access : Access) : Prop where
  tracked : s.tracker.get? block.number = some access
  evenly : access.lastAccessed.CountsEvenly
  no_colder : access.tier.level ≤ (classify block access s.policy now).level

namespace Cooling

private theorem later (h : Cooling now s block access) (hblock : block.createdAt.CountsEvenly)
    (hnow : ¬ now.InLeapSecond) (hnow' : ¬ now'.InLeapSecond) (horder : now'.before now = false) : Cooling now' s block access := by
  refine ⟨h.tracked, h.evenly, h.no_colder.trans ?_⟩
  apply classify_mono
  · exact Instant.elapsed_mono hblock hblock le_rfl hnow hnow' horder
  · exact Instant.elapsed_mono h.evenly h.evenly le_rfl hnow hnow' horder
  · exact UInt64.le_refl _

/-- Moves away from where a block is lead to a colder tier. -/
theorem cools (h : Cooling now s block access) {r : MoveResult} (htries : Tries now s block r) :
    r.target.isColderThan r.origin = true := by
  have hrecord : s.recordOf now block = access := recordOf_of_get? h.tracked
  have hle : r.origin.level ≤ r.target.level := by
    rw [htries.origin, htries.target, recommended_eq, hrecord]
    exact h.no_colder
  have hne : r.origin.level ≠ r.target.level := fun hsame => htries.leaves (Tier.level_injective hsame).symm
  rw [Tier.isColderThan_iff]
  omega

/-- A sweep leaves a block at least as cold as it was, and no colder than it should be. -/
theorem sweep (h : Cooling now s block access) (hsweeps : Sweeps now s blocks results after)
    (hdistinct : (blocks.map (·.number)).Nodup) (hblock : block ∈ blocks) :
    ∃ a, Cooling now after block a ∧ access.tier.level ≤ a.tier.level := by
  obtain ⟨a, hget, hlast, hcount, htier⟩ := hsweeps.record hdistinct hblock
  have hrecord : s.recordOf now block = access := recordOf_of_get? h.tracked
  rw [recommended_eq, hrecord] at htier
  rw [hrecord] at hlast hcount
  have hsame : classify block a after.policy now = classify block access s.policy now := by
    rw [hsweeps.policy_eq, classify_congr hlast hcount]
  refine ⟨a, ⟨hget, ?_, ?_⟩, ?_⟩
  · rw [hlast]
    exact h.evenly
  · rw [hsame, htier]
    split
    · exact h.no_colder
    · exact le_refl _
  · rw [htier]
    split
    · exact le_refl _
    · exact h.no_colder

/-- After the sweep that first sees a block it is where it should be, or on the chain when it should be off the chain:
moves on the chain do not fail. -/
theorem first (hsweeps : Sweeps now s blocks results after) (hdistinct : (blocks.map (·.number)).Nodup)
    (hblock : block ∈ blocks) (hempty : s.tracker.get? block.number = none) (hnow : ¬ now.InLeapSecond) :
    ∃ a, Cooling now after block a := by
  obtain ⟨a, hget, hlast, hcount, htier⟩ := hsweeps.record hdistinct hblock
  have hrecord : s.recordOf now block = Access.first block.payloadSize s.policy now := by
    rw [recordOf, hempty, Option.getD_none]
  have hsame : classify block a after.policy now = s.recommended now block := by
    rw [recommended_eq, hsweeps.policy_eq, classify_congr hlast hcount]
  refine ⟨a, hget, ?_, ?_⟩
  · rw [hlast, hrecord]
    exact .of_not_inLeapSecond hnow
  · rw [hsame, htier]
    split
    · next hfailed =>
      obtain ⟨r, hr, hnumber⟩ := List.mem_map.1 hfailed
      obtain ⟨hr, hfail⟩ := List.mem_filter.1 hr
      obtain ⟨tried, hmem, htries⟩ := hsweeps.tries hdistinct hr
      obtain rfl : tried = block :=
        List.inj_on_of_nodup_map hdistinct hmem hblock (htries.number.symm.trans hnumber)
      have horigin : r.origin.isOffChain = false := by
        rw [htries.origin, hrecord]
        exact Policy.initialTier_isOffChain ..
      have htarget : r.target.isOffChain = true := by
        have hstuck := htries.stuck (by simpa using hfail)
        rw [horigin] at hstuck
        simpa using hstuck
      rw [← htries.origin, ← htries.target]
      exact (Tier.level_lt_of_isOffChain horigin htarget).le
    · exact le_refl _

end Cooling

/-- One of several sweeps: the store it works with, the clock that its moves read, and the time it goes by. -/
structure Round (σ : Type) where
  api : BlobStore σ
  clock : Instant
  now : Instant

structure Swept (σ : Type) where
  before : Service σ
  report : SweepReport
  after : Service σ

def sweepRounds (blocks : List Block) (s : Service σ) : List (Round σ) → List (Swept σ)
  | [] => []
  | round :: rounds =>
    let r := (sweep round.api round.clock round.now blocks).run s
    ⟨s, r.1, r.2⟩ :: sweepRounds blocks r.2 rounds

/-- A sweep that only cools: a block from whose creation time counts evenly goes to a colder tier if it goes anywhere,
and in the end it is tracked in no warmer tier than before. -/
def Swept.OnlyCools (blocks : List Block) (swept : Swept σ) : Prop :=
  (∀ r ∈ swept.report.results, ∃ block ∈ blocks, r.number = block.number ∧
    (block.createdAt.CountsEvenly → r.target.isColderThan r.origin = true)) ∧
  ∀ block ∈ blocks, block.createdAt.CountsEvenly → ∃ a a', swept.before.tracker.get? block.number = some a ∧
    swept.after.tracker.get? block.number = some a' ∧ a.tier.level ≤ a'.tier.level

def AllCooling (now : Instant) (s : Service σ) (blocks : List Block) : Prop :=
  ∀ block ∈ blocks, block.createdAt.CountsEvenly → ∃ a, Cooling now s block a

private theorem AllCooling.later (h : AllCooling now s blocks) (hnow : ¬ now.InLeapSecond) (hnow' : ¬ now'.InLeapSecond)
    (horder : now'.before now = false) : AllCooling now' s blocks := by
  intro block hblock hcreated
  obtain ⟨a, ha⟩ := h block hblock hcreated
  exact ⟨a, ha.later hcreated hnow hnow' horder⟩

private theorem AllCooling.sweep (h : AllCooling now s blocks) (hdistinct : (blocks.map (·.number)).Nodup)
    (hauto : s.policy.autoTiering = true) (api : BlobStore σ) (clock : Instant) :
    ∃ report after, (sweep api clock now blocks).run s = (report, after) ∧ after.policy.autoTiering = true ∧
      AllCooling now after blocks ∧ Swept.OnlyCools blocks ⟨s, report, after⟩ := by
  obtain ⟨results, after, hrun, hsweeps⟩ := sweeps_of_autoTiering api clock now blocks hauto
  refine ⟨_, after, hrun, ?_, ?_, ?_, ?_⟩
  · rw [hsweeps.policy_eq, hauto]
  · intro block hblock hcreated
    obtain ⟨access, hcooling⟩ := h block hblock hcreated
    obtain ⟨a, ha, -⟩ := hcooling.sweep hsweeps hdistinct hblock
    exact ⟨a, ha⟩
  · intro r hr
    obtain ⟨block, hblock, htries⟩ := hsweeps.tries hdistinct hr
    refine ⟨block, hblock, htries.number, ?_⟩
    intro hcreated
    obtain ⟨access, hcooling⟩ := h block hblock hcreated
    exact hcooling.cools htries
  · intro block hblock hcreated
    obtain ⟨access, hcooling⟩ := h block hblock hcreated
    obtain ⟨a, ha, hlevel⟩ := hcooling.sweep hsweeps hdistinct hblock
    exact ⟨access, a, hcooling.tracked, ha.tracked, hlevel⟩

/-- Whatever sweeps follow once all blocks cool, they only cool. -/
theorem AllCooling.rounds {rounds : List (Round σ)} (h : AllCooling now s blocks)
    (hdistinct : (blocks.map (·.number)).Nodup) (hauto : s.policy.autoTiering = true) (hnow : ¬ now.InLeapSecond)
    (hleap : ∀ round ∈ rounds, ¬ round.now.InLeapSecond) (hlater : ∀ round ∈ rounds, round.now.before now = false)
    (horder : rounds.Pairwise fun earlier later => later.now.before earlier.now = false) :
    ∀ swept ∈ sweepRounds blocks s rounds, swept.OnlyCools blocks := by
  induction rounds generalizing s now with
  | nil =>
    intro swept hswept
    cases hswept
  | cons round rounds ih =>
    have hround := hleap round List.mem_cons_self
    rw [List.pairwise_cons] at horder
    have hdue := h.later hnow hround (hlater round List.mem_cons_self)
    obtain ⟨report, after, hrun, hafter, hcooling, honly⟩ := hdue.sweep hdistinct hauto round.api round.clock
    intro swept hswept
    rw [sweepRounds, hrun] at hswept
    rcases List.mem_cons.1 hswept with rfl | hswept
    · exact honly
    · exact ih hcooling hafter hround (fun r hr => hleap r (List.mem_cons_of_mem _ hr)) horder.1 horder.2 swept hswept

/-- Where no block is tracked at first, and blocks are only swept, at times that do not go back, the second and every
later sweep only cools. The times lie outside leap seconds; a block may be made in one that ends a day. -/
theorem later_sweeps_only_cool (blocks : List Block) (s : Service σ) (rounds : List (Round σ))
    (hdistinct : (blocks.map (·.number)).Nodup) (hauto : s.policy.autoTiering = true)
    (hempty : ∀ n, s.tracker.get? n = none) (hleap : ∀ round ∈ rounds, ¬ round.now.InLeapSecond)
    (horder : rounds.Pairwise fun earlier later => later.now.before earlier.now = false) :
    ∀ swept ∈ (sweepRounds blocks s rounds).tail, swept.OnlyCools blocks := by
  cases rounds with
  | nil =>
    intro swept hswept
    cases hswept
  | cons round rounds =>
    rw [List.pairwise_cons] at horder
    have hround := hleap round List.mem_cons_self
    obtain ⟨results, after, hrun, hsweeps⟩ := sweeps_of_autoTiering round.api round.clock round.now blocks hauto
    have hcooling : AllCooling round.now after blocks :=
      fun block hblock _ => Cooling.first hsweeps hdistinct hblock (hempty block.number) hround
    have hafter : after.policy.autoTiering = true := by rw [hsweeps.policy_eq, hauto]
    rw [sweepRounds, hrun, List.tail_cons]
    exact hcooling.rounds hdistinct hafter hround (fun r hr => hleap r (List.mem_cons_of_mem _ hr)) horder.1 horder.2

def sweepTimes (policy : Policy) (store : MemoryStore) (block : Block) (times : List Instant) :
    List (Swept MemoryStore) :=
  sweepRounds [block] (create Deflate.compress policy none store) (times.map fun t => ⟨MemoryStore.api, t, t⟩)

def laterMoves (sweeps : List (Swept σ)) : List (Tier × Tier) :=
  sweeps.tail.flatMap fun swept => swept.report.results.map fun r => (r.origin, r.target)

def secondsPolicy (hot warm cold : UInt64) : Policy :=
  { Policy.standard with
    hotThreshold := .ofSeconds hot
    warmThreshold := .ofSeconds warm
    coldThreshold := .ofSeconds cold
    accessThreshold := 0 }

def madeAt (t : Instant) : Block := { (default : Block) with createdAt := t }

/-- A block made in the leap second at the end of 2016 goes from hot to warm, and to cold and the archive as far as a
store lets it that takes no writes. -/
theorem sample_only_cools : ∃ created times,
    created.InLeapSecond ∧ created.CountsEvenly ∧
      (∀ swept ∈ (sweepTimes (secondsPolicy 10 100 1000) { MemoryStore.empty with failWrites := true } (madeAt created)
        times).tail, swept.OnlyCools [madeAt created]) ∧
      laterMoves (sweepTimes (secondsPolicy 10 100 1000) { MemoryStore.empty with failWrites := true } (madeAt created)
        times) = [(.hot, .warm), (.warm, .cold), (.warm, .archive)] := by
  let created : Instant := { seconds := 1483228799, nanos := 1500000000 }
  let times : List Instant := [{ seconds := 1483228805, nanos := 0 }, { seconds := 1483228850, nanos := 0 },
    { seconds := 1483229300, nanos := 0 }, { seconds := 1483233800, nanos := 0 }]
  refine ⟨created, times, by decide, fun _ => by decide, ?_, by decide +kernel⟩
  apply later_sweeps_only_cool
  · simp
  · rfl
  · intro n
    exact Tracker.get?_empty
  · decide
  · decide

/-- Leap seconds make sweeps bring a block back. The first block is looked at in the leap second at the end of 2016 and
at new year, half a second later; the time since its creation seems to be shorter then. The second is made in a leap
second at noon, which no longer counts after midnight. -/
theorem leap_seconds_rewarm :
    (Instant.before { seconds := 1483228800, nanos := 0 } { seconds := 1483228799, nanos := 1500000000 } = false ∧
      (secondsPolicy 120 1000 2000).autoTiering = true ∧
      laterMoves (sweepTimes (secondsPolicy 120 1000 2000) .empty (madeAt { seconds := 1483228680, nanos := 500000000 })
        [{ seconds := 1483228799, nanos := 1500000000 }, { seconds := 1483228800, nanos := 0 }]) = [(.warm, .hot)]) ∧
    (Instant.before { seconds := 86400, nanos := 0 } { seconds := 86399, nanos := 900000000 } = false ∧
      (secondsPolicy 43140 100000 200000).autoTiering = true ∧
      laterMoves (sweepTimes (secondsPolicy 43140 100000 200000) .empty (madeAt { seconds := 43259, nanos := 1500000000 })
        [{ seconds := 86399, nanos := 900000000 }, { seconds := 86400, nanos := 0 }]) = [(.warm, .hot)]) := by
  refine ⟨⟨?_, ?_, ?_⟩, ?_, ?_, ?_⟩
  · decide
  · rfl
  · decide +kernel
  · decide
  · rfl
  · decide +kernel

end Service

end TieredLedger
