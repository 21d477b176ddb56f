import TieredLedger.Proofs.Tracker
import TieredLedger.Tiering.Service

/-! One move of a block that has the service to itself: every way in which it can end, and what it leaves behind. -/
namespace TieredLedger

namespace Service

variable {σ : Type} {api : BlobStore σ} {now : Instant} {block : Block} {target : Tier} {s : Service σ}

def tracked (s : Service σ) (now : Instant) (block : Block) : Access × Tracker :=
  s.tracker.getOrCreate block.number block.payloadSize s.policy now

def begun (s : Service σ) (now : Instant) (block : Block) : Service σ := { s with tracker := (s.tracked now block).2 }

/-- An action goes on in the service that the one before it left. -/
theorem run_then {α β : Type} (x : StateM (Service σ) α) (f : α → StateM (Service σ) β) :
    (x >>= f).run s = (f (x.run s).1).run (x.run s).2 := rfl

theorem run_get : (get : StateM (Service σ) (Service σ)).run s = (s, s) := rfl

private theorem run_track : (track now block).run s = ((s.tracked now block).1, s.begun now block) := rfl

private theorem run_setStatus {number : UInt64} {status : MoveStatus} :
    (setStatus number status).run s = ((), { s with status := s.status.insert number status }) := rfl

private theorem run_onStore {α : Type} {act : StoreM σ α} :
    (onStore act).run s = ((act.run s.store).1, { s with store := (act.run s.store).2 }) := rfl

private theorem run_commit {number : UInt64} {tier : Tier} {blob : Option BlobRef} :
    (commit number tier blob).run s =
      ((s.tracker.commit number tier blob).1, { s with tracker := (s.tracker.commit number tier blob).2 }) := rfl

inductive MoveEnds (api : BlobStore σ) (now : Instant) (block : Block) (target : Tier) (s : Service σ) :
    MoveResult × Service σ → Prop
  /-- The block was in the tier already. -/
  | already (h : (s.tracked now block).1.tier = target) : MoveEnds api now block target s
      (⟨block.number, (s.tracked now block).1.tier, target, .alreadyThere⟩, { s with tracker := (s.tracked now block).2 })
  /-- The payload could not be seen to, and the record stays as it was. -/
  | failed {error : StoreError} {store : σ} (h : (s.tracked now block).1.tier ≠ target)
      (answer : (carry api s.deflate s.policy s.password now block (s.tracked now block).1 target).run s.store =
        (.error error, store)) :
      MoveEnds api now block target s
        (⟨block.number, (s.tracked now block).1.tier, target, .failed error⟩,
          { s with
            tracker := (s.tracked now block).2
            store := store
            status := (s.status.insert block.number (.inProgress target)).insert block.number (.failed error) })
  /-- The payload was seen to, and the record has the new tier and the new reference. -/
  | moved {blob : Option BlobRef} {restored : Option UInt64} {store : σ} (h : (s.tracked now block).1.tier ≠ target)
      (answer : (carry api s.deflate s.policy s.password now block (s.tracked now block).1 target).run s.store =
        (.ok (blob, restored), store)) :
      MoveEnds api now block target s
        (⟨block.number, (s.tracked now block).1.tier, target, .moved restored⟩,
          { s with
            tracker := (s.tracked now block).2.insert block.number ((s.tracked now block).1.moved target blob)
            store := store
            migrations := s.migrations + 1
            status := (s.status.insert block.number (.inProgress target)).erase block.number })

/-- Every move ends in one of these ways; in particular none finds its block untracked when it commits. -/
theorem migrate_ends (api : BlobStore σ) (now : Instant) (block : Block) (target : Tier) (s : Service σ) :
    MoveEnds api now block target s ((migrate api now block target).run s) := by
  have hself : (s.tracked now block).2.get? block.number = some (s.tracked now block).1 :=
    Tracker.get?_getOrCreate_self
  rw [migrate, run_then, run_track]
  by_cases htier : (s.tracked now block).1.tier = target
  · rw [if_pos htier]
    exact .already htier
  rw [if_neg htier, run_then, run_setStatus, run_then, run_get, run_then, run_onStore]
  dsimp only [begun]
  cases hcarry : (carry api s.deflate s.policy s.password now block (s.tracked now block).1 target).run s.store with
  | mk answer store =>
    cases answer with
    | error error => exact .failed htier hcarry
    | ok result =>
      obtain ⟨blob, restored⟩ := result
      have hcommit : (s.tracked now block).2.commit block.number target blob =
          (true, (s.tracked now block).2.insert block.number ((s.tracked now block).1.moved target blob)) := by
        rw [Tracker.commit, hself]
      rw [run_then, run_commit]
      dsimp only
      rw [hcommit]
      exact .moved htier hcarry

def recommended (s : Service σ) (now : Instant) (block : Block) : Tier :=
  classify block (s.tracked now block).1 s.policy now

section Sweeping

variable {clock : Instant} {report : SweepReport} {blocks : List Block}

-- The rule for the recommendation is a variable here, so that checking the proofs does not evaluate it.
private theorem run_choose (rule : Block → Access → Policy → Instant → Tier) :
    StateT.run (do
      let access ← track now block
      let recommended := rule block access (← get).policy now
      if recommended = access.tier then return report
      return report.record (← migrate api clock block recommended)) s =
    if rule block (s.tracked now block).1 s.policy now = (s.tracked now block).1.tier then (report, s.begun now block)
    else
      (report.record ((migrate api clock block
          (rule block (s.tracked now block).1 s.policy now)).run (s.begun now block)).1,
        ((migrate api clock block (rule block (s.tracked now block).1 s.policy now)).run (s.begun now block)).2) := by
  rw [run_then, run_track, run_then, run_get]
  dsimp only
  have hpolicy : (s.begun now block).policy = s.policy := rfl
  rw [hpolicy]
  split
  · rfl
  · rfl

/-- A sweep moves a block to the tier that is recommended for it, if that is another one. -/
theorem run_sweepBlock : (sweepBlock api clock now report block).run s =
    if s.recommended now block = (s.tracked now block).1.tier then (report, s.begun now block)
    else
      (report.record ((migrate api clock block (s.recommended now block)).run (s.begun now block)).1,
        ((migrate api clock block (s.recommended now block)).run (s.begun now block)).2) :=
  run_choose classify

/-- A sweep goes through the blocks one by one, unless sweeps are turned off. -/
theorem run_sweep : ((sweep api clock now blocks).run s).2 =
    if s.policy.autoTiering then ((blocks.foldlM (sweepBlock api clock now) (.start blocks.length)).run s).2 else s := by
  rw [sweep, run_then, run_get]
  generalize sweepBlock api clock now = step
  cases hauto : s.policy.autoTiering with
  | true => rfl
  | false => rfl

variable {P : Service σ → Prop}

private theorem foldlM_preserves (step : SweepReport → Block → StateM (Service σ) SweepReport)
    (hstep : ∀ b ∈ blocks, ∀ report s, P s → P ((step report b).run s).2) (hs : P s) :
    P ((blocks.foldlM step report).run s).2 := by
  induction blocks generalizing s report with
  | nil => exact hs
  | cons b blocks ih =>
    rw [List.foldlM_cons, run_then]
    exact ih (fun c hc => hstep c (List.mem_cons_of_mem b hc)) (hstep b List.mem_cons_self report s hs)

/-- A sweep keeps what tracking a block and moving it keep. -/
theorem sweep_preserves (htrack : ∀ b ∈ blocks, ∀ s, P s → P (s.begun now b))
    (hmigrate : ∀ b ∈ blocks, ∀ target s, P s → P ((migrate api clock b target).run s).2) (hs : P s) :
    P ((sweep api clock now blocks).run s).2 := by
  rw [run_sweep]
  split
  · refine foldlM_preserves _ (fun b hb report s hs => ?_) hs
    rw [run_sweepBlock]
    split
    · exact htrack b hb s hs
    · exact hmigrate b hb _ _ (htrack b hb s hs)
  · exact hs

end Sweeping

end Service

end TieredLedger
