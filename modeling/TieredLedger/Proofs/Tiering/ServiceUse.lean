import TieredLedger.Proofs.Tiering.Deed
import TieredLedger.Proofs.Tiering.LockUse

/-! What tasks do to the service: each step of a task makes at most one call to the tracker, or notes how a move stands,
counts it, or turns to the store. -/
namespace TieredLedger

def MovePhase.deed? (policy : Policy) (clock : Instant) (block : Block) (target : Tier) : MovePhase → Option Deed
  | tracking _ => some (.look block.number block.payloadSize policy clock)
  | committing _ access blob restored => some (.commit ⟨block.number, access.tier, target, .moved restored⟩ blob)
  | start | waiting _ | marking _ _ | asking _ _ _ | storing _ _ | fetching _ _ _ | counting _ _ _ | settling _ _ _
  | failing _ _ _ | releasing _ _ | dropping _ _ | done _ => none

def Task.deed? (policy : Policy) (clock : Instant) : Task → Option Deed
  | move block target phase => phase.deed? policy clock block target
  | evict number (.evicting _) => some (.evict number)
  | access block none => some (.access block.number block.payloadSize policy clock)
  | sweep now (.choosing (block :: _) _) => some (.look block.number block.payloadSize policy now)
  | sweep _ (.moving _ _ block target phase) => phase.deed? policy clock block target
  | evict _ _ | access _ (some _) | sweep _ _ => none

inductive Stage
  | idle
  /-- It has seen where the block is. -/
  | knowing (number : UInt64) (tier : Tier) (blob : Option BlobRef)
  /-- It has noted that the move goes on. -/
  | working (number : UInt64) (tier : Tier) (blob : Option BlobRef)
  /-- It has committed the move, and is to count it. -/
  | counting (number : UInt64)
  /-- It is to note that the move is over. -/
  | closing (number : UInt64)

namespace Stage

def knows? : Stage → Option (UInt64 × Tier × Option BlobRef)
  | knowing number tier blob | working number tier blob => some (number, tier, blob)
  | idle | counting _ | closing _ => none

def marks (n : UInt64) : Stage → Bool
  | working number _ _ | counting number | closing number => number == n
  | idle | knowing .. => false

def isCounting : Stage → Bool
  | counting _ => true
  | idle | knowing .. | working .. | closing _ => false

end Stage

def MovePhase.stage (number : UInt64) : MovePhase → Stage
  | start | waiting _ | tracking _ | releasing _ _ | dropping _ _ | done _ => .idle
  | marking _ access => .knowing number access.tier access.blob
  | asking _ access _ | storing _ access | fetching _ access _ | committing _ access _ _ =>
    .working number access.tier access.blob
  | counting _ _ _ => .counting number
  | settling _ _ _ | failing _ _ _ => .closing number

def Task.stage : Task → Stage
  | move block _ phase => phase.stage block.number
  | sweep _ (.moving _ _ block _ phase) => phase.stage block.number
  | sweep _ (.start _) | sweep _ (.choosing _ _) | sweep _ (.done _) | evict _ _ | access _ _ => .idle

def MovePhase.won (number : UInt64) (target : Tier) : MovePhase → List MoveResult
  | counting _ access restored | settling _ access restored => [⟨number, access.tier, target, .moved restored⟩]
  | releasing _ result | dropping _ result | done result => [result].filter (·.success)
  | start | waiting _ | tracking _ | marking _ _ | asking _ _ _ | storing _ _ | fetching _ _ _ | committing _ _ _ _
  | failing _ _ _ => []

def Task.won : Task → List MoveResult
  | move block target phase => phase.won block.number target
  | sweep _ (.choosing _ report) | sweep _ (.done report) => report.results.filter (·.success)
  | sweep _ (.moving _ report block target phase) =>
    report.results.filter (·.success) ++ phase.won block.number target
  | sweep _ (.start _) | evict _ _ | access _ _ => []

def Task.results : Task → List MoveResult
  | move _ _ (.done result) => [result]
  | sweep _ (.done report) => report.results
  | move _ _ _ | sweep _ _ | evict _ _ | access _ _ => []

/-- A step of a task as the service sees it: what the task knows before it, the call to the tracker, the results of moves
committed in it, and what the task knows after it. -/
inductive Does {σ : Type} (s : Service σ) : Stage → Option Deed → List MoveResult → Stage → Service σ → Prop
  | rest {stage : Stage} : Does s stage none [] stage s
  | look {number size : UInt64} {now : Instant} : Does s .idle (some (.look number size s.policy now)) [] .idle
      { s with tracker := (s.tracker.getOrCreate number size s.policy now).2 }
  | learn {number size : UInt64} {now : Instant} : Does s .idle (some (.look number size s.policy now)) []
      (.knowing number (s.tracker.getOrCreate number size s.policy now).1.tier
        (s.tracker.getOrCreate number size s.policy now).1.blob)
      { s with tracker := (s.tracker.getOrCreate number size s.policy now).2 }
  | access {number size : UInt64} {now : Instant} : Does s .idle (some (.access number size s.policy now)) [] .idle
      { s with tracker := (s.tracker.recordAccess number size s.policy now).2 }
  | evict {number : UInt64} : Does s .idle (some (.evict number)) [] .idle
      { s with tracker := (s.tracker.evict number).2 }
  | mark {number : UInt64} {tier target : Tier} {blob : Option BlobRef} {stage : Stage}
      (next : stage = .working number tier blob ∨ stage = .closing number) :
      Does s (.knowing number tier blob) none [] stage { s with status := s.status.insert number (.inProgress target) }
  | store {number : UInt64} {tier : Tier} {blob : Option BlobRef} {stage : Stage} {store : σ}
      (next : stage = .working number tier blob ∨ stage = .closing number) :
      Does s (.working number tier blob) none [] stage { s with store }
  | commit {tier : Tier} {blob new : Option BlobRef} (r : MoveResult) (origin : r.origin = tier)
      (accepted : (s.tracker.commit r.number r.target new).1 = true) :
      Does s (.working r.number tier blob) (some (.commit r new)) [r] (.counting r.number)
        { s with tracker := (s.tracker.commit r.number r.target new).2 }
  | refused {tier : Tier} {blob new : Option BlobRef} (r : MoveResult)
      (refusal : (s.tracker.commit r.number r.target new).1 = false) :
      Does s (.working r.number tier blob) (some (.commit r new)) [] (.closing r.number)
        { s with tracker := (s.tracker.commit r.number r.target new).2 }
  | count {number : UInt64} :
      Does s (.counting number) none [] (.closing number) { s with migrations := s.migrations + 1 }
  | settle {number : UInt64} : Does s (.closing number) none [] .idle { s with status := s.status.erase number }
  | fail {number : UInt64} {error : StoreError} :
      Does s (.closing number) none [] .idle { s with status := s.status.insert number (.failed error) }

section Steps

variable {σ : Type} {api : BlobStore σ} {clock now : Instant} {block : Block} {target : Tier} {w w' : World σ}

private theorem MovePhase.stage_seeTo (block : Block) (access : Access) (target : Tier) (lock : Nat) (number : UInt64) :
    (seeTo block access target lock).stage number = .working number access.tier access.blob ∨
      (seeTo block access target lock).stage number = .closing number := by
  rcases seeTo_cases block access target lock with ⟨_, h⟩ | ⟨_, h⟩ | h | ⟨_, h⟩ | ⟨_, h⟩
  case inr.inr.inr.inr =>
    rw [h]
    exact Or.inr rfl
  all_goals
    rw [h]
    exact Or.inl rfl

private theorem MovePhase.won_seeTo (block : Block) (access : Access) (target : Tier) (lock : Nat) :
    (seeTo block access target lock).won block.number target = [] := by
  rcases seeTo_cases block access target lock with ⟨_, h⟩ | ⟨_, h⟩ | h | ⟨_, h⟩ | ⟨_, h⟩
  all_goals
    rw [h]
    rfl

private theorem World.service_onStore {α : Type} {act : StoreM σ α} {answer : Except StoreError α}
    (h : w.onService (Service.onStore act) = (answer, w')) : ∃ store, w'.service = { w.service with store } := by
  cases h
  exact ⟨_, rfl⟩

private theorem World.service_commit {number : UInt64} {tier : Tier} {blob : Option BlobRef} {done : Bool}
    (h : w.onService (Service.commit number tier blob) = (done, w')) :
    (w.service.tracker.commit number tier blob).1 = done ∧
      w'.service = { w.service with tracker := (w.service.tracker.commit number tier blob).2 } := by
  cases h
  exact ⟨rfl, rfl⟩

private theorem MovePhase.does {phase phase' : MovePhase}
    (h : phase.step api clock block target w = some (phase', w')) :
    ∃ won, phase'.won block.number target = phase.won block.number target ++ won ∧
      Does w.service (phase.stage block.number) (phase.deed? w.service.policy clock block target) won
        (phase'.stage block.number) w'.service := by
  cases phase with
  | start =>
    cases h
    exact ⟨[], rfl, .rest⟩
  | waiting lock =>
    rw [step] at h
    split at h
    · cases h
    · cases h
      exact ⟨[], rfl, .rest⟩
  | tracking lock =>
    rw [step] at h
    dsimp only at h
    split at h
    · cases h
      exact ⟨[], rfl, .look⟩
    · cases h
      exact ⟨[], rfl, .learn⟩
  | marking lock access =>
    cases h
    exact ⟨[], won_seeTo .., .mark (stage_seeTo ..)⟩
  | asking | storing | fetching =>
    rw [step] at h
    split at h
    all_goals
      next heq =>
        cases h
        obtain ⟨store, hstore⟩ := World.service_onStore heq
        rw [hstore]
        refine ⟨[], rfl, .store ?_⟩
        first
        | exact Or.inl rfl
        | exact Or.inr rfl
  | committing lock access blob restored =>
    rw [step] at h
    split at h
    · next heq =>
      cases h
      obtain ⟨haccepted, hservice⟩ := World.service_commit heq
      rw [hservice]
      exact ⟨_, rfl, .commit ⟨block.number, access.tier, target, .moved restored⟩ rfl haccepted⟩
    · next heq =>
      cases h
      obtain ⟨hrefusal, hservice⟩ := World.service_commit heq
      rw [hservice]
      exact ⟨[], rfl, .refused ⟨block.number, access.tier, target, .moved restored⟩ hrefusal⟩
  | counting lock access restored =>
    cases h
    exact ⟨[], rfl, .count⟩
  | settling lock access restored =>
    cases h
    exact ⟨[], rfl, .settle⟩
  | failing lock access error =>
    cases h
    exact ⟨[], rfl, .fail⟩
  | releasing lock result =>
    cases h
    exact ⟨[], (List.append_nil _).symm, .rest⟩
  | dropping lock result =>
    cases h
    exact ⟨[], (List.append_nil _).symm, .rest⟩
  | done result => cases h

private theorem EvictPhase.does {number : UInt64} {phase phase' : EvictPhase}
    (h : phase.step number w = some (phase', w')) :
    Does w.service .idle ((Task.evict number phase).deed? w.service.policy clock) [] .idle w'.service := by
  cases phase with
  | start | releasing | forgetting | dropping =>
    cases h
    exact .rest
  | waiting lock =>
    rw [step] at h
    split at h
    · cases h
    · cases h
      exact .rest
  | evicting lock =>
    cases h
    exact .evict
  | done evicted => cases h

/-- Results that a sweep has put into its report stay committed. -/
theorem SweepPhase.does {phase phase' : SweepPhase} (h : phase.step api clock now w = some (phase', w')) :
    ∃ won, (Task.sweep now phase').won = (Task.sweep now phase).won ++ won ∧
      Does w.service (Task.sweep now phase).stage ((Task.sweep now phase).deed? w.service.policy clock) won
        (Task.sweep now phase').stage w'.service := by
  cases phase with
  | start blocks =>
    rw [step] at h
    split at h
    all_goals
      cases h
      exact ⟨[], rfl, .rest⟩
  | choosing rest report =>
    cases rest with
    | nil =>
      cases h
      exact ⟨[], (List.append_nil _).symm, .rest⟩
    | cons block rest =>
      rw [step] at h
      dsimp only at h
      split at h
      · cases h
        exact ⟨[], (List.append_nil _).symm, .look⟩
      · cases h
        exact ⟨[], rfl, .look⟩
  | moving rest report block target phase =>
    rcases step_moving h with ⟨result, rfl, rfl, rfl⟩ | ⟨moved, hmove, rfl⟩
    · refine ⟨[], ?_, .rest⟩
      rw [List.append_nil]
      exact List.filter_append ..
    · obtain ⟨won, hwon, hdoes⟩ := MovePhase.does hmove
      refine ⟨won, ?_, hdoes⟩
      rw [Task.won, Task.won, hwon, List.append_assoc]
  | done report => cases h

/-- What a step of a task does to the service. -/
theorem Task.does {t t' : Task} (h : t.step api clock w = some (t', w')) :
    ∃ won, t'.won = t.won ++ won ∧
      Does w.service t.stage (t.deed? w.service.policy clock) won t'.stage w'.service := by
  cases t with
  | move block target phase =>
    simp only [step, Option.map_eq_some_iff, Prod.exists] at h
    obtain ⟨phase', _, hmove, heq⟩ := h
    cases heq
    exact MovePhase.does hmove
  | evict number phase =>
    simp only [step, Option.map_eq_some_iff, Prod.exists] at h
    obtain ⟨phase', _, hevict, heq⟩ := h
    cases heq
    exact ⟨[], rfl, EvictPhase.does hevict⟩
  | access block result =>
    cases result with
    | none =>
      cases h
      exact ⟨[], rfl, .access⟩
    | some _ => cases h
  | sweep now phase =>
    simp only [step, Option.map_eq_some_iff, Prod.exists] at h
    obtain ⟨phase', _, hsweep, heq⟩ := h
    cases heq
    exact SweepPhase.does hsweep

end Steps

section Inside

variable {n : UInt64} {phase : MovePhase} {t : Task}

private theorem MovePhase.isInside_of_knows {number : UInt64} {place : Tier × Option BlobRef}
    (h : (phase.stage number).knows? = some (n, place)) : (phase.hold number).isInside n = true := by
  cases phase with
  | marking | asking | storing | fetching | committing =>
    cases h
    exact beq_self_eq_true n
  | start | waiting | tracking | counting | settling | failing | releasing | dropping | done => cases h

/-- A task knows where a block is only in the critical section of the block. -/
theorem Task.isInside_of_knows {place : Tier × Option BlobRef} (h : t.stage.knows? = some (n, place)) :
    t.hold.isInside n = true := by
  cases t with
  | move block target phase => exact MovePhase.isInside_of_knows h
  | evict | access => cases h
  | sweep now phase =>
    cases phase with
    | moving rest report block target phase => exact MovePhase.isInside_of_knows h
    | start | choosing | done => cases h

variable {policy : Policy} {clock : Instant} {d : Deed}

private theorem MovePhase.isInside_of_disturbs {block : Block} {target : Tier}
    (h : phase.deed? policy clock block target = some d) (hd : d.disturbs n = true) :
    (phase.hold block.number).isInside n = true := by
  cases phase with
  | tracking =>
    cases h
    cases hd
  | committing =>
    cases h
    exact hd
  | start | waiting | marking | asking | storing | fetching | counting | settling | failing | releasing | dropping
  | done => cases h

/-- Only in the critical section of a block does a task move it or end its record. -/
theorem Task.isInside_of_disturbs (h : t.deed? policy clock = some d) (hd : d.disturbs n = true) :
    t.hold.isInside n = true := by
  unfold deed? at h
  split at h
  · exact MovePhase.isInside_of_disturbs h hd
  · cases h
    exact hd
  · cases h
    cases hd
  · cases h
    cases hd
  · exact MovePhase.isInside_of_disturbs h hd
  all_goals cases h

end Inside

section Does

variable {σ : Type} {s s' : Service σ} {stage stage' : Stage} {d? : Option Deed} {won : List MoveResult} {n : UInt64}
  {target : Tier}

def Knows (s : Service σ) (stage : Stage) : Prop :=
  ∀ n tier blob, stage.knows? = some (n, tier, blob) → ∃ a, s.tracker.get? n = some a ∧ a.tier = tier ∧ a.blob = blob

namespace Does

/-- A step changes the tracker by its call and by nothing else. -/
theorem tracker (h : Does s stage d? won stage' s') : s'.tracker = replay s.tracker d?.toList := by
  cases h <;> rfl

/-- What a task knows after a step it has just seen, or has known before. -/
theorem knows (h : Does s stage d? won stage' s') (hknows : Knows s stage) : Knows s' stage' := by
  cases h with
  | rest => exact hknows
  | learn =>
    rintro _ _ _ ⟨⟩
    exact ⟨_, Tracker.get?_getOrCreate_self, rfl, rfl⟩
  | mark next | store next =>
    obtain rfl | rfl := next
    · exact hknows
    · rintro _ _ _ ⟨⟩
  | look | access | evict | commit | refused | count | settle | fail => rintro _ _ _ ⟨⟩

/-- A commit finds the block tracked, in the tier that the task has seen. -/
theorem commits (h : Does s stage d? won stage' s') (hknows : Knows s stage) {r : MoveResult} {blob : Option BlobRef}
    (hd : d? = some (.commit r blob)) : (∃ a, s.tracker.get? r.number = some a ∧ r.origin = a.tier) ∧ won = [r] := by
  cases h with
  | commit r origin accepted =>
    cases hd
    obtain ⟨a, hget, htier, -⟩ := hknows _ _ _ rfl
    exact ⟨⟨a, hget, origin.trans htier.symm⟩, rfl⟩
  | refused r refusal =>
    cases hd
    obtain ⟨a, hget, -⟩ := hknows _ _ _ rfl
    rw [Tracker.commit_refused.1.1 refusal] at hget
    cases hget
  | rest | look | learn | access | evict | mark | store | count | settle | fail => cases hd

/-- The result that a move commits is the one that its call goes with. -/
theorem won_eq (h : Does s stage d? won stage' s') (hknows : Knows s stage) :
    won = d?.toList.filterMap Deed.result? := by
  cases d? with
  | none => cases h <;> rfl
  | some d =>
    cases d with
    | commit r blob => exact (h.commits hknows rfl).2
    | look | access | evict => cases h <;> rfl

/-- The counter goes along with the moves that have been committed and not yet counted. -/
theorem migrations (h : Does s stage d? won stage' s') :
    s'.migrations + UInt64.ofNat (if stage'.isCounting then 1 else 0) =
      s.migrations + UInt64.ofNat (if stage.isCounting then 1 else 0) + UInt64.ofNat won.length := by
  cases h with
  | mark next | store next =>
    obtain rfl | rfl := next
    · simp [Stage.isCounting]
    · simp [Stage.isCounting]
  | rest | look | learn | access | evict | commit | refused | count | settle | fail => simp [Stage.isCounting]

/-- A note that a move goes on is that of a task that has not noted its end. -/
theorem marks (h : Does s stage d? won stage' s') (hmark : s'.status[n]? = some (.inProgress target)) :
    stage'.marks n = true ∨ (stage.marks n = false ∧ s.status[n]? = some (.inProgress target)) := by
  cases h with
  | @mark number _ _ _ _ next =>
    simp only [Std.TreeMap.getElem?_insert, Std.LawfulEqCmp.compare_eq_iff_eq] at hmark
    split at hmark
    · next hn =>
      left
      obtain rfl | rfl := next
      · exact beq_iff_eq.2 hn
      · exact beq_iff_eq.2 hn
    · exact Or.inr ⟨rfl, hmark⟩
  | store next =>
    obtain rfl | rfl := next
    all_goals
      rw [or_iff_not_imp_left, Bool.not_eq_true]
      exact fun hnot => ⟨hnot, hmark⟩
  | @settle number =>
    simp only [Std.TreeMap.getElem?_erase, Std.LawfulEqCmp.compare_eq_iff_eq] at hmark
    split at hmark
    · cases hmark
    · next hn => exact Or.inr ⟨beq_eq_false_iff_ne.2 hn, hmark⟩
  | @fail number =>
    simp only [Std.TreeMap.getElem?_insert, Std.LawfulEqCmp.compare_eq_iff_eq] at hmark
    split at hmark
    · cases hmark
    · next hn => exact Or.inr ⟨beq_eq_false_iff_ne.2 hn, hmark⟩
  | rest | look | learn | access | evict | commit | refused | count =>
    rw [or_iff_not_imp_left, Bool.not_eq_true]
    exact fun hnot => ⟨hnot, hmark⟩

end Does

end Does

end TieredLedger
