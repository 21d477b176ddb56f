import TieredLedger.Proofs.Tiering.Carry
import TieredLedger.Proofs.Tiering.Move

/-! A move is all or nothing, whatever the store answers: it either brings the record of its block to the new tier and is
counted, or leaves the record as it was and says why. Which of the two it is hangs on the answers of the store alone. -/
namespace TieredLedger

variable {σ α β : Type}

def StoreM.watch (call : StoreM σ α) : StoreM (σ × List Bool) α := ExceptT.mk fun w =>
  ((call.run w.1).1, (call.run w.1).2, w.2 ++ [(call.run w.1).1.isOk])

/-- A store with a list of how its calls were answered. -/
def BlobStore.watched (api : BlobStore σ) : BlobStore (σ × List Bool) where
  contains handle := (api.contains handle).watch
  put now data request := (api.put now data request).watch
  fetch now handle password := (api.fetch now handle password).watch

namespace StoreM

/-- A watched action does what the plain one does, and that goes well exactly if all its calls do. -/
def Echoes (plain : StoreM σ α) (watched : StoreM (σ × List Bool) α) : Prop :=
  ∀ store log, ∃ answers,
    watched.run (store, log) = ((plain.run store).1, (plain.run store).2, log ++ answers) ∧
      ((plain.run store).1.isOk = true ↔ ∀ ok ∈ answers, ok = true)

private theorem echoes_pure (a : α) : Echoes (pure a : StoreM σ α) (pure a) := by
  intro store log
  refine ⟨[], ?_, ?_⟩
  · rw [List.append_nil]
    rfl
  · have hok : ((pure a : StoreM σ α).run store).1.isOk = true := rfl
    exact ⟨fun _ _ hmem => absurd hmem List.not_mem_nil, fun _ => hok⟩

private theorem echoes_watch (call : StoreM σ α) : Echoes call call.watch := by
  intro store log
  refine ⟨[(call.run store).1.isOk], rfl, ?_⟩
  simp

private theorem Echoes.bind {x : StoreM σ α} {y : StoreM (σ × List Bool) α} {f : α → StoreM σ β}
    {g : α → StoreM (σ × List Bool) β} (h : Echoes x y) (hnext : ∀ a, Echoes (f a) (g a)) :
    Echoes (x >>= f) (y >>= g) := by
  intro store log
  obtain ⟨answers, hrun, hok⟩ := h store log
  rw [run_bind, run_bind, hrun]
  cases hx : x.run store with
  | mk answer after =>
    rw [hx] at hok
    cases answer with
    | error e => exact ⟨answers, rfl, hok⟩
    | ok a =>
      obtain ⟨more, hrest, hmore⟩ := hnext a after (log ++ answers)
      refine ⟨answers ++ more, ?_, ?_⟩
      · rw [← List.append_assoc]
        exact hrest
      · have hall : ∀ ok ∈ answers, ok = true := hok.1 rfl
        rw [hmore]
        simp only [List.mem_append]
        constructor
        · rintro hlater ok (hin | hin)
          · exact hall ok hin
          · exact hlater ok hin
        · intro hboth ok hin
          exact hboth ok (Or.inr hin)

end StoreM

namespace Service

variable {api : BlobStore σ} {deflate : Bytes → Bytes} {policy : Policy} {password : Option String} {now : Instant}
  {block : Block} {access : Access} {target : Tier}

/-- A payload that comes back to the chain has to be known of somewhere. -/
def Recoverable (block : Block) (access : Access) (target : Tier) : Prop :=
  access.tier.isOffChain = true → target.isOffChain = false → (knownCopy block access).isSome = true

private theorem echoes_relocate :
    (relocate api deflate policy password now block).Echoes (relocate api.watched deflate policy password now block) :=
  (StoreM.echoes_watch _).bind fun _ => StoreM.echoes_pure _

private theorem echoes_cool :
    (cool api deflate policy password now block access target).Echoes
      (cool api.watched deflate policy password now block access target) := by
  rw [cool, cool]
  split
  · exact StoreM.echoes_pure _
  cases knownCopy block access with
  | none => exact echoes_relocate.bind fun _ => StoreM.echoes_pure _
  | some blob =>
    refine (StoreM.echoes_watch _).bind ?_
    intro isThere
    split
    · exact StoreM.echoes_pure _
    · exact echoes_relocate.bind fun _ => StoreM.echoes_pure _

private theorem echoes_warm (h : Recoverable block access target) :
    (warm api password now block access target).Echoes (warm api.watched password now block access target) := by
  rw [warm, warm]
  split
  · exact StoreM.echoes_pure _
  · next hback =>
    simp only [Bool.or_eq_true, Bool.not_eq_true', not_or, Bool.not_eq_false, Bool.not_eq_true] at hback
    obtain ⟨blob, hblob⟩ := Option.isSome_iff_exists.1 (h hback.1 hback.2)
    rw [hblob]
    exact (StoreM.echoes_watch _).bind fun _ => StoreM.echoes_pure _

private theorem echoes_carry (h : Recoverable block access target) :
    (carry api deflate policy password now block access target).Echoes
      (carry api.watched deflate policy password now block access target) := by
  rw [carry, carry]
  split
  · exact echoes_cool.bind fun _ => StoreM.echoes_pure _
  · exact echoes_warm h

/-- A payload that nothing is known of cannot come back, and no call is made for it. -/
theorem run_carry_of_not_recoverable (h : ¬ Recoverable block access target) (store : σ) :
    (carry api deflate policy password now block access target).run store =
      (.error (.missingReference block.number access.tier.name), store) := by
  simp only [Recoverable, Classical.not_imp, Bool.not_eq_true, Option.isSome_eq_false_iff, Option.isNone_iff_eq_none] at h
  obtain ⟨hoff, hback, hnone⟩ := h
  rw [carry, Tier.not_colder_of_onChain hoff hback, if_neg Bool.false_ne_true, warm, hoff, hback, hnone]
  rfl

/-- Seeing to a payload goes well exactly if all calls to the store do, and a payload that comes back is known of. -/
theorem carry_watched (api : BlobStore σ) (deflate : Bytes → Bytes) (policy : Policy) (password : Option String)
    (now : Instant) (block : Block) (access : Access) (target : Tier) (store : σ) : ∃ answers,
      (carry api.watched deflate policy password now block access target).run (store, []) =
        (((carry api deflate policy password now block access target).run store).1,
          ((carry api deflate policy password now block access target).run store).2, answers) ∧
      (((carry api deflate policy password now block access target).run store).1.isOk = true ↔
        (∀ ok ∈ answers, ok = true) ∧ Recoverable block access target) := by
  by_cases h : Recoverable block access target
  · have hechoes : (carry api deflate policy password now block access target).Echoes
        (carry api.watched deflate policy password now block access target) := echoes_carry h
    obtain ⟨answers, hrun, hok⟩ := hechoes store []
    exact ⟨answers, hrun, hok.trans (and_iff_left h).symm⟩
  · refine ⟨[], ?_, ?_⟩
    · rw [run_carry_of_not_recoverable h, run_carry_of_not_recoverable h]
    · rw [run_carry_of_not_recoverable h]
      simp [h, Except.isOk, Except.toBool]

/-- The same service over a store that takes down how its calls are answered. -/
def watched (s : Service σ) (answers : List Bool) : Service (σ × List Bool) :=
  ⟨s.deflate, s.policy, s.password, (s.store, answers), s.tracker, s.migrations, s.status⟩

variable {s : Service σ}

/-- A move ends in one way only. -/
theorem MoveEnds.run_eq {r : MoveResult × Service σ} (h : MoveEnds api now block target s r) :
    (migrate api now block target).run s = r := by
  have hends := migrate_ends api now block target s
  generalize (migrate api now block target).run s = result at hends ⊢
  cases h with
  | already htier =>
    cases hends with
    | already _ => rfl
    | failed hne _ => exact absurd htier hne
    | moved hne _ => exact absurd htier hne
  | failed htier hcarry =>
    cases hends with
    | already heq => exact absurd heq htier
    | failed _ answer =>
      cases hcarry.symm.trans answer
      rfl
    | moved _ answer => cases hcarry.symm.trans answer
  | moved htier hcarry =>
    cases hends with
    | already heq => exact absurd heq htier
    | failed _ answer => cases hcarry.symm.trans answer
    | moved _ answer =>
      cases hcarry.symm.trans answer
      rfl

/-- A size is given only for a payload that comes back to the chain. -/
theorem back_of_restored {store after : σ} {blob : Option BlobRef} {restored : Option UInt64}
    (h : (carry api deflate policy password now block access target).run store = (.ok (blob, restored), after))
    (hsome : restored.isSome = true) : access.tier.isOffChain = true ∧ target.isOffChain = false := by
  rw [carry] at h
  split at h
  · rw [StoreM.run_bind] at h
    split at h
    · cases h
      cases hsome
    · cases h
  · rw [warm] at h
    split at h
    · cases h
      cases hsome
    · next hback =>
      simpa only [Bool.or_eq_true, Bool.not_eq_true', not_or, Bool.not_eq_false, Bool.not_eq_true] using hback

/-- The record of a block: the tracked one, or that of a block seen for the first time. -/
def recordOf (s : Service σ) (now : Instant) (block : Block) : Access :=
  (s.tracker.get? block.number).getD (Access.first block.payloadSize s.policy now)

/-- The record of a tracked block is the tracked one. -/
theorem recordOf_of_get? {a : Access} (h : s.tracker.get? block.number = some a) : s.recordOf now block = a := by
  rw [recordOf, h, Option.getD_some]

theorem tracked_fst : (s.tracked now block).1 = s.recordOf now block := by
  rw [tracked, recordOf, Tracker.getOrCreate]
  cases s.tracker.get? block.number <;> rfl

/-- A move finds a record for its block, or makes one. -/
theorem get?_tracked : (s.tracked now block).2.get? block.number = some (s.recordOf now block) := by
  rw [← tracked_fst]
  exact Tracker.get?_getOrCreate_self

/-- Other records are as they were. -/
theorem get?_tracked_of_ne {n : UInt64} (hn : n ≠ block.number) :
    (s.tracked now block).2.get? n = s.tracker.get? n := by
  rw [tracked, Tracker.getOrCreate]
  cases s.tracker.get? block.number with
  | some known => rfl
  | none => exact Tracker.get?_insert.trans (if_neg hn.symm)

/-- What a move comes to for its block, whose record was the given one, and for all others. -/
structure AllOrNothing (s : Service σ) (block : Block) (target : Tier) (access : Access) (result : MoveResult)
    (after : Service σ) : Prop where
  names : result.number = block.number ∧ result.origin = access.tier ∧ result.target = target
  moved : result.success = true →
    (∃ blob, after.tracker.get? block.number = some { access with tier := target, blob := blob }) ∧
      after.migrations = s.migrations + 1 ∧ after.statusOf block.number = none
  stayed : result.success = false →
    after.tracker.get? block.number = some access ∧ after.migrations = s.migrations ∧
      if access.tier = target then after.statusOf block.number = s.statusOf block.number
      else ∃ error, after.statusOf block.number = some (.failed error) ∧ error.message = result.message
  restored : result.restored.isSome = true →
    result.success = true ∧ access.tier.isOffChain = true ∧ target.isOffChain = false
  others : ∀ n ≠ block.number, after.tracker.get? n = s.tracker.get? n ∧ after.statusOf n = s.statusOf n

private theorem allOrNothing_already (htier : (s.recordOf now block).tier = target) :
    AllOrNothing s block target (s.recordOf now block)
      ⟨block.number, (s.recordOf now block).tier, target, .alreadyThere⟩
      { s with tracker := (s.tracked now block).2 } where
  names := ⟨rfl, rfl, rfl⟩
  moved h := by cases h
  stayed _ := ⟨get?_tracked, rfl, by rw [if_pos htier]; rfl⟩
  restored h := by cases h
  others _ hn := ⟨get?_tracked_of_ne hn, rfl⟩

private theorem allOrNothing_failed (htier : (s.recordOf now block).tier ≠ target) (error : StoreError) (store : σ) :
    AllOrNothing s block target (s.recordOf now block)
      ⟨block.number, (s.recordOf now block).tier, target, .failed error⟩
      { s with
        tracker := (s.tracked now block).2
        store := store
        status := (s.status.insert block.number (.inProgress target)).insert block.number (.failed error) } where
  names := ⟨rfl, rfl, rfl⟩
  moved h := by cases h
  stayed _ := by
    refine ⟨get?_tracked, rfl, ?_⟩
    rw [if_neg htier]
    exact ⟨error, Std.TreeMap.getElem?_insert_self, rfl⟩
  restored h := by cases h
  others n hn := by
    refine ⟨get?_tracked_of_ne hn, ?_⟩
    simp [statusOf, Std.TreeMap.getElem?_insert, hn.symm]

private theorem allOrNothing_moved {blob : Option BlobRef} {restored : Option UInt64} (store : σ)
    (hrestored : restored.isSome = true →
      (s.recordOf now block).tier.isOffChain = true ∧ target.isOffChain = false) :
    AllOrNothing s block target (s.recordOf now block)
      ⟨block.number, (s.recordOf now block).tier, target, .moved restored⟩
      { s with
        tracker := (s.tracked now block).2.insert block.number ((s.recordOf now block).moved target blob)
        store := store
        migrations := s.migrations + 1
        status := (s.status.insert block.number (.inProgress target)).erase block.number } where
  names := ⟨rfl, rfl, rfl⟩
  moved _ := by
    refine ⟨⟨blob, ?_⟩, rfl, ?_⟩
    · exact Tracker.get?_insert.trans (if_pos rfl)
    · exact Std.TreeMap.getElem?_erase_self
  stayed h := by cases h
  restored h := ⟨rfl, hrestored h⟩
  others n hn := by
    refine ⟨?_, ?_⟩
    · rw [Tracker.get?_insert, if_neg hn.symm]
      exact get?_tracked_of_ne hn
    · simp [statusOf, Std.TreeMap.getElem?_erase, Std.TreeMap.getElem?_insert, hn.symm]

/-- A move is all or nothing for every tracker, status and counter and whatever the store answers. It succeeds exactly
if the tiers differ, every call that it makes to the store is answered without an error, and a payload that has to come
back to the chain is known of. -/
theorem migrate_all_or_nothing (api : BlobStore σ) (now : Instant) (block : Block) (target : Tier) (s : Service σ) :
    ∃ result after answers, (migrate api now block target).run s = (result, after) ∧
      (migrate api.watched now block target).run (s.watched []) = (result, after.watched answers) ∧
      AllOrNothing s block target (s.recordOf now block) result after ∧
      (result.success = true ↔ (s.recordOf now block).tier ≠ target ∧ (∀ ok ∈ answers, ok = true) ∧
        Recoverable block (s.recordOf now block) target) := by
  obtain ⟨answers, hwatched, hok⟩ :=
    carry_watched api s.deflate s.policy s.password now block (s.tracked now block).1 target s.store
  have hends := migrate_ends api now block target s
  generalize (migrate api now block target).run s = r at hends
  cases hends with
  | already htier =>
    have hagain : MoveEnds api.watched now block target (s.watched []) _ := .already htier
    refine ⟨_, _, [], rfl, hagain.run_eq, ?_, ?_⟩
    · rw [tracked_fst] at htier ⊢
      exact allOrNothing_already htier
    · rw [tracked_fst] at htier
      exact iff_of_false Bool.false_ne_true fun h => h.1 htier
  | failed htier answer =>
    rw [answer] at hwatched hok
    have hagain : MoveEnds api.watched now block target (s.watched []) _ := .failed htier hwatched
    refine ⟨_, _, answers, rfl, hagain.run_eq, ?_, ?_⟩
    · rw [tracked_fst] at htier ⊢
      exact allOrNothing_failed htier _ _
    · rw [tracked_fst] at hok
      exact iff_of_false Bool.false_ne_true fun h => Bool.false_ne_true (hok.2 h.2)
  | moved htier answer =>
    have hrestored := back_of_restored answer
    rw [answer] at hwatched hok
    have hagain : MoveEnds api.watched now block target (s.watched []) _ := .moved htier hwatched
    refine ⟨_, _, answers, rfl, hagain.run_eq, ?_, ?_⟩
    · rw [tracked_fst] at hrestored ⊢
      exact allOrNothing_moved _ hrestored
    · rw [tracked_fst] at htier hok
      exact iff_of_true rfl ⟨htier, hok.1 rfl⟩

end Service

end TieredLedger
