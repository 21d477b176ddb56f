import TieredLedger.Proofs.Tiering.Exclusion
import TieredLedger.Proofs.Tiering.ServiceUse

/-! Any number of tasks in any interleaving: the moves of a block come one after another, each from where the one before
has brought it, and all that go well are counted. -/
namespace TieredLedger

/-- What can come about when tasks arrive at any time and take their steps in any order, and the calls to the tracker
that they make on the way. -/
inductive Chronicle {σ : Type} (api : BlobStore σ) (service : Service σ) :
    World σ → List Participant → List Deed → Prop
  | start : Chronicle api service ⟨service, .empty⟩ [] []
  | arrive {w : World σ} {participants : List Participant} {log : List Deed} (task : Task)
      (earlier : Chronicle api service w participants log) (fresh : task.isFresh = true) :
      Chronicle api service w (participants ++ [⟨task, false⟩]) log
  | step {w w' : World σ} {task task' : Task} {removed : Bool} {log : List Deed} (before after : List Participant)
      (clock : Instant) (earlier : Chronicle api service w (before ++ ⟨task, removed⟩ :: after) log)
      (stepped : task.step api clock w = some (task', w')) :
      Chronicle api service w' (before ++ ⟨task', removed || task.removes w.locks w'.locks⟩ :: after)
        (log ++ (task.deed? w.service.policy clock).toList)

private theorem Task.idle_of_isFresh {t : Task} (h : t.isFresh = true) : t.stage = .idle ∧ t.won = [] := by
  unfold isFresh at h
  split at h
  case h_5 => cases h
  all_goals exact ⟨rfl, rfl⟩

private theorem Task.idle_of_isDone {t : Task} (h : t.isDone = true) :
    t.stage = .idle ∧ t.won = t.results.filter (·.success) := by
  unfold isDone at h
  split at h
  case h_5 => cases h
  all_goals exact ⟨rfl, rfl⟩

/-- What a service, the calls made to its tracker and the tasks at work on it have to do with each other. -/
structure Consistent {σ : Type} (s : Service σ) (log : List Deed) (tasks : List Task) : Prop where
  tracker : s.tracker = replay .empty log
  honest : Honest .empty log
  knows : ∀ t ∈ tasks, Knows s t.stage
  won : (log.filterMap Deed.result?).Perm (tasks.flatMap Task.won)
  counted : s.migrations + UInt64.ofNat (tasks.countP fun t => t.stage.isCounting) =
    UInt64.ofNat (log.filterMap Deed.result?).length
  marked : ∀ n target, s.status[n]? = some (.inProgress target) → ∃ t ∈ tasks, t.stage.marks n = true

namespace Consistent

variable {σ : Type} {s s' : Service σ} {log : List Deed} {t t' : Task} {tasks others : List Task}

private theorem create (deflate : Bytes → Bytes) (policy : Policy) (password : Option String) (store : σ) :
    Consistent (.create deflate policy password store) [] [] where
  tracker := rfl
  honest := trivial
  knows t hmem := absurd hmem List.not_mem_nil
  won := .nil
  counted := rfl
  marked n target h := by simp [Service.create] at h

private theorem perm (hs : Consistent s log tasks) (hperm : tasks.Perm others) : Consistent s log others where
  tracker := hs.tracker
  honest := hs.honest
  knows t hmem := hs.knows t (hperm.mem_iff.2 hmem)
  won := hs.won.trans (hperm.flatMap_right _)
  counted := by rw [← hperm.countP_eq, hs.counted]
  marked n target h := by
    obtain ⟨t, hmem, hmarks⟩ := hs.marked n target h
    exact ⟨t, hperm.mem_iff.1 hmem, hmarks⟩

private theorem arrive (hs : Consistent s log others) (hfresh : t.isFresh = true) : Consistent s log (t :: others) where
  tracker := hs.tracker
  honest := hs.honest
  knows := by
    intro p hmem
    rcases List.mem_cons.1 hmem with rfl | hmem
    · rw [(Task.idle_of_isFresh hfresh).1]
      rintro _ _ _ ⟨⟩
    · exact hs.knows p hmem
  won := by
    rw [List.flatMap_cons, (Task.idle_of_isFresh hfresh).2]
    exact hs.won
  counted := by
    rw [List.countP_cons_of_neg, hs.counted]
    rw [(Task.idle_of_isFresh hfresh).1]
    exact Bool.false_ne_true
  marked n target h := by
    obtain ⟨p, hmem, hmarks⟩ := hs.marked n target h
    exact ⟨p, List.mem_cons_of_mem _ hmem, hmarks⟩

/-- What tasks know of a block stays right, as only a task in the critical section of the block can disturb it. -/
theorem knows_others {policy : Policy} {clock : Instant} {won : List MoveResult} (hs : Consistent s log (t :: others))
    (hone : ∀ n, (t :: others).countP (fun t => t.hold.isInside n) ≤ 1)
    (hdoes : Does s t.stage (t.deed? policy clock) won t'.stage s') {p : Task} (hmem : p ∈ others) :
    Knows s' p.stage := by
  intro n tier blob hknown
  obtain ⟨a, hget, htier, hblob⟩ := hs.knows p (List.mem_cons_of_mem _ hmem) n tier blob hknown
  rw [hdoes.tracker]
  cases hd : t.deed? policy clock with
  | none => exact ⟨a, hget, htier, hblob⟩
  | some d =>
    have hdisturbs : d.disturbs n = false := by
      by_contra hdisturbs
      rw [Bool.not_eq_false] at hdisturbs
      have hother : 0 < others.countP fun t => t.hold.isInside n :=
        List.countP_pos_iff.2 ⟨p, hmem, Task.isInside_of_knows hknown⟩
      have hboth := hone n
      rw [List.countP_cons, if_pos (Task.isInside_of_disturbs hd hdisturbs)] at hboth
      omega
    obtain ⟨a', hget', htier', hblob'⟩ := Deed.keeps hdisturbs hget
    exact ⟨a', hget', htier'.trans htier, hblob'.trans hblob⟩

private theorem step {policy : Policy} {clock : Instant} {won : List MoveResult} (hs : Consistent s log (t :: others))
    (hone : ∀ n, (t :: others).countP (fun t => t.hold.isInside n) ≤ 1)
    (hdoes : Does s t.stage (t.deed? policy clock) won t'.stage s') (hwon : t'.won = t.won ++ won) :
    Consistent s' (log ++ (t.deed? policy clock).toList) (t' :: others) where
  tracker := by rw [hdoes.tracker, hs.tracker, replay_append]
  honest := by
    rw [Honest.append]
    refine ⟨hs.honest, ?_⟩
    cases hd : t.deed? policy clock with
    | none => trivial
    | some d =>
      refine ⟨?_, trivial⟩
      intro r blob hcommit
      rw [← hs.tracker]
      exact (hdoes.commits (hs.knows t List.mem_cons_self) (hd.trans (congrArg some hcommit))).1
  knows := by
    intro p hmem
    rcases List.mem_cons.1 hmem with rfl | hmem
    · exact hdoes.knows (hs.knows t List.mem_cons_self)
    · exact hs.knows_others hone hdoes hmem
  won := by
    have hbefore := hs.won
    rw [List.flatMap_cons] at hbefore ⊢
    rw [List.filterMap_append, ← hdoes.won_eq (hs.knows t List.mem_cons_self), hwon, List.append_assoc]
    refine (hbefore.append_right won).trans ?_
    rw [List.append_assoc]
    exact List.perm_append_comm.append_left _
  counted := by
    have hbefore := hs.counted
    rw [List.countP_cons, UInt64.ofNat_add] at hbefore ⊢
    rw [List.filterMap_append, List.length_append, UInt64.ofNat_add, ← hbefore,
      ← hdoes.won_eq (hs.knows t List.mem_cons_self)]
    generalize UInt64.ofNat (others.countP fun t => t.stage.isCounting) = rest
    calc s'.migrations + (rest + UInt64.ofNat (if t'.stage.isCounting then 1 else 0))
        = s'.migrations + UInt64.ofNat (if t'.stage.isCounting then 1 else 0) + rest := by ac_rfl
      _ = s.migrations + UInt64.ofNat (if t.stage.isCounting then 1 else 0) + UInt64.ofNat won.length + rest := by
        rw [hdoes.migrations]
      _ = s.migrations + (rest + UInt64.ofNat (if t.stage.isCounting then 1 else 0)) + UInt64.ofNat won.length := by
        ac_rfl
  marked := by
    intro n target hmark
    rcases hdoes.marks hmark with hmarks | ⟨hnot, hbefore⟩
    · exact ⟨t', List.mem_cons_self, hmarks⟩
    · obtain ⟨p, hmem, hmarks⟩ := hs.marked n target hbefore
      rcases List.mem_cons.1 hmem with rfl | hmem
      · rw [hnot] at hmarks
        cases hmarks
      · exact ⟨p, List.mem_cons_of_mem _ hmem, hmarks⟩

/-- When all tasks are over, the moves that went well are those in the log, and all of them have been counted. -/
theorem at_rest (hs : Consistent s log tasks) (hdone : ∀ t ∈ tasks, t.isDone = true) :
    (log.filterMap Deed.result?).Perm ((tasks.flatMap Task.results).filter (·.success)) ∧
      s.migrations = UInt64.ofNat ((tasks.flatMap Task.results).countP (·.success)) ∧
      ∀ n target, s.statusOf n ≠ some (.inProgress target) := by
  have hwon : tasks.flatMap Task.won = (tasks.flatMap Task.results).filter (·.success) := by
    rw [List.filter_flatMap]
    exact List.flatMap_congr fun t ht => (Task.idle_of_isDone (hdone t ht)).2
  have hperm := hs.won
  rw [hwon] at hperm
  have hnone : tasks.countP (fun t => t.stage.isCounting) = 0 := by
    rw [List.countP_eq_zero]
    intro t ht
    rw [(Task.idle_of_isDone (hdone t ht)).1]
    exact Bool.false_ne_true
  have hcounted := hs.counted
  rw [hnone, hperm.length_eq, ← List.countP_eq_length_filter] at hcounted
  refine ⟨hperm, by simpa using hcounted, ?_⟩
  intro n target hmark
  obtain ⟨t, ht, hmarks⟩ := hs.marked n target hmark
  rw [(Task.idle_of_isDone (hdone t ht)).1] at hmarks
  cases hmarks

end Consistent

namespace Chronicle

variable {σ : Type} {api : BlobStore σ} {service : Service σ} {w : World σ} {participants : List Participant}
  {log : List Deed}

private theorem perm_tasks (before after : List Participant) (task : Task) (removed : Bool) :
    ((before ++ ⟨task, removed⟩ :: after).map (·.task)).Perm (task :: (before ++ after).map (·.task)) :=
  List.perm_middle.map _

private theorem reachable (h : Chronicle api service w participants log) : Reachable api w participants := by
  induction h with
  | start => exact .start service
  | arrive task earlier fresh ih => exact ih.arrive task fresh
  | step before after clock earlier stepped ih => exact ih.step before after clock stepped

/-- Whatever can come about has a chronicle. -/
theorem exists_of_reachable (h : Reachable api w participants) :
    ∃ service log, Chronicle api service w participants log := by
  induction h with
  | start service => exact ⟨service, [], .start⟩
  | arrive task earlier fresh ih =>
    obtain ⟨service, log, hchronicle⟩ := ih
    exact ⟨service, log, hchronicle.arrive task fresh⟩
  | step before after clock earlier stepped ih =>
    obtain ⟨service, log, hchronicle⟩ := ih
    exact ⟨service, _, hchronicle.step before after clock stepped⟩

private theorem consistent {deflate : Bytes → Bytes} {policy : Policy} {password : Option String} {store : σ}
    (h : Chronicle api (.create deflate policy password store) w participants log) :
    Consistent w.service log (participants.map (·.task)) := by
  induction h with
  | start => exact .create deflate policy password store
  | arrive task earlier fresh ih =>
    rw [List.map_append]
    exact (ih.arrive fresh).perm (List.perm_append_singleton _ _).symm
  | @step w w' task task' removed log before after clock earlier stepped ih =>
    obtain ⟨won, hwon, hdoes⟩ := Task.does stepped
    have hone : ∀ n, (task :: (before ++ after).map (·.task)).countP (fun t => t.hold.isInside n) ≤ 1 := by
      intro n
      have hguarded := (earlier.reachable.guarded.perm List.perm_middle).countP_isInside_le_one n
      rw [List.countP_cons] at hguarded ⊢
      rw [List.countP_map]
      exact hguarded
    exact ((ih.perm (perm_tasks ..)).step hone hdoes hwon).perm (perm_tasks ..).symm

/-- The moves of a block come one after another. A commit finds its block tracked. The moves while a block keeps a record
form a path, from the tier where the block began; the record has the tier and the reference of the latest of them, or
still those it began with, and an access leaves them alone. When all tasks are over, the counter tells how many of their
moves went well, and no move is noted as going on. -/
theorem serializes {deflate : Bytes → Bytes} {policy : Policy} {password : Option String} {store : σ}
    (h : Chronicle api (.create deflate policy password store) w participants log) :
    w.service.tracker = replay .empty log ∧
    (∀ before r blob after, log = before ++ .commit r blob :: after →
      ((replay .empty before).commit r.number r.target blob).1 = true) ∧
    (∀ n seen later rest, Life n log seen later rest →
      Path (seen.policy.initialTier seen.size) ((later.filterMap (Deed.move? n)).map Prod.fst)) ∧
    (∀ n a, w.service.tracker.get? n = some a → ∃ seen later, Life n log seen later [] ∧
      (a.tier, a.blob) = latest (seen.policy.initialTier seen.size) (later.filterMap (Deed.move? n))) ∧
    (∀ clock block t' w', (Task.access block none).step api clock w = some (t', w') →
      ∀ n a, w.service.tracker.get? n = some a →
        ∃ a', w'.service.tracker.get? n = some a' ∧ a'.tier = a.tier ∧ a'.blob = a.blob) ∧
    ((∀ p ∈ participants, p.task.isDone = true) →
      (log.filterMap Deed.result?).Perm ((participants.flatMap fun p => p.task.results).filter (·.success)) ∧
      w.service.migrations = UInt64.ofNat ((participants.flatMap fun p => p.task.results).countP (·.success)) ∧
      ∀ n target, w.service.statusOf n ≠ some (.inProgress target)) := by
  have hs := h.consistent
  refine ⟨hs.tracker, ?_, ?_, ?_, ?_, ?_⟩
  · rintro before r blob after rfl
    obtain ⟨a, hget, -⟩ := (Honest.append.1 hs.honest).2.1 r blob rfl
    rw [← Bool.not_eq_false, Tracker.commit_refused.1, hget]
    exact Option.some_ne_none a
  · exact fun n seen later rest hlife => hlife.path hs.honest
  · intro n a hget
    rw [hs.tracker] at hget
    exact exists_life log hget
  · intro clock block t' w' hstep n a hget
    obtain ⟨won, -, hdoes⟩ := Task.does hstep
    have hkept : (Deed.access block.number block.payloadSize w.service.policy clock).disturbs n = false := rfl
    rw [hdoes.tracker]
    exact Deed.keeps hkept hget
  · intro hdone
    have hrest := hs.at_rest (List.forall_mem_map.2 hdone)
    rw [List.flatMap_map] at hrest
    exact hrest

/-- A block is moved from hot to warm while it is accessed, and another move that has waited brings it back. -/
theorem sample_serializes : ∃ (w : World MemoryStore) (participants : List Participant) (log : List Deed),
    Chronicle MemoryStore.api (.create Deflate.compress .standard none .empty) w participants log ∧
      (∀ p ∈ participants, p.task.isDone = true) ∧
      (log.filterMap Deed.result?).map (fun r => (r.origin, r.target)) = [(.hot, .warm), (.warm, .hot)] ∧
      w.service.migrations = 2 ∧ ∀ n target, w.service.statusOf n ≠ some (.inProgress target) := by
  have alone : Chronicle MemoryStore.api (.create Deflate.compress .standard none .empty) _ _ _ := .start
  have cooling := alone.arrive (.move default .warm .start) rfl
  have warming := cooling.arrive (.move default .hot .start) rfl
  have reading := warming.arrive (.access default none) rfl
  have borrowed := reading.step [] [_, _] default rfl
  have waiting := borrowed.step [_] [_] default rfl
  have entered := waiting.step [] [_, _] default rfl
  have tracked := entered.step [] [_, _] default rfl
  have marked := tracked.step [] [_, _] default rfl
  have read := marked.step [_, _] [] default rfl
  have committed := read.step [] [_, _] default rfl
  have counted := committed.step [] [_, _] default rfl
  have settled := counted.step [] [_, _] default rfl
  have released := settled.step [] [_, _] default rfl
  have dropped := released.step [] [_, _] default rfl
  have entered' := dropped.step [_] [_] default rfl
  have tracked' := entered'.step [_] [_] default rfl
  have marked' := tracked'.step [_] [_] default rfl
  have committed' := marked'.step [_] [_] default rfl
  have counted' := committed'.step [_] [_] default rfl
  have settled' := counted'.step [_] [_] default rfl
  have released' := settled'.step [_] [_] default rfl
  have finished := released'.step [_] [_] default rfl
  obtain ⟨-, -, -, -, -, hrest⟩ := serializes finished
  have hend := hrest (List.all_eq_true.1 rfl)
  exact ⟨_, _, _, finished, List.all_eq_true.1 rfl, rfl, hend.2.1, hend.2.2⟩

end Chronicle

end TieredLedger
