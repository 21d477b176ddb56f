import Mathlib.Data.List.Chain
import TieredLedger.Proofs.Tracker
import TieredLedger.Tiering.Result

/-! The calls that tasks make to the tracker, one after another. If every commit finds its block where the move says that
it comes from, then the moves of a block form a path, and the tracker has the block at the end of it. -/
namespace TieredLedger

/-- A call that a task makes to the tracker. A commit goes with the result that the move is to have. -/
inductive Deed
  | look (number size : UInt64) (policy : Policy) (now : Instant)
  | access (number size : UInt64) (policy : Policy) (now : Instant)
  | commit (result : MoveResult) (blob : Option BlobRef)
  | evict (number : UInt64)

namespace Deed

def call : Deed → Tracker.Call
  | look number size policy now => .getOrCreate number size policy now
  | access number size policy now => .recordAccess number size policy now
  | commit result blob => .commit result.number result.target blob
  | evict number => .evict number

def move? (n : UInt64) : Deed → Option (MoveResult × Option BlobRef)
  | commit result blob => if result.number = n then some (result, blob) else none
  | look .. | access .. | evict _ => none

def result? : Deed → Option MoveResult
  | commit result _ => some result
  | look .. | access .. | evict _ => none

def disturbs (n : UInt64) : Deed → Bool
  | commit result _ => result.number == n
  | evict number => number == n
  | look .. | access .. => false

variable {t : Tracker} {d : Deed} {n : UInt64} {a : Access}

/-- A deed that does not disturb a block leaves it where it is. -/
theorem keeps (hd : d.disturbs n = false) (h : t.get? n = some a) :
    ∃ a', (d.call.run t).get? n = some a' ∧ a'.tier = a.tier ∧ a'.blob = a.blob := by
  cases d with
  | look number size policy now =>
    refine ⟨a, ?_, rfl, rfl⟩
    rw [call, Tracker.Call.run]
    by_cases hn : n = number
    · subst hn
      rw [Tracker.getOrCreate_of_get? h]
      exact h
    · exact (Tracker.get?_getOrCreate_of_ne hn).trans h
  | access number size policy now =>
    rw [call, Tracker.Call.run, Tracker.get?_recordAccess]
    split
    · next hn =>
      rw [hn, h]
      exact ⟨_, rfl, rfl, rfl⟩
    · exact ⟨a, h, rfl, rfl⟩
  | commit result blob =>
    have hn : result.number ≠ n := by simpa [disturbs] using hd
    rw [call, Tracker.Call.run, Tracker.get?_commit, if_neg hn]
    exact ⟨a, h, rfl, rfl⟩
  | evict number =>
    have hn : number ≠ n := by simpa [disturbs] using hd
    rw [call, Tracker.Call.run, Tracker.get?_evict, if_neg hn]
    exact ⟨a, h, rfl, rfl⟩

private theorem moves {result : MoveResult} {blob : Option BlobRef} (h : t.get? result.number = some a) :
    ((commit result blob).call.run t).get? result.number = some (a.moved result.target blob) := by
  rw [call, Tracker.Call.run, Tracker.get?_commit, if_pos rfl, h]
  rfl

private theorem ends_of_get? (hafter : (d.call.run t).get? n = some a) : d.call.ends n = false := by
  by_contra hended
  rw [Bool.not_eq_false] at hended
  rw [Tracker.Recorded.ended hended] at hafter
  cases hafter

/-- A deed that makes a record puts the block where its size and the policy tell. -/
theorem makes (h : t.get? n = none) (hafter : (d.call.run t).get? n = some a) :
    ∃ seen, d.call.sighting? n = some seen ∧ a.tier = seen.policy.initialTier seen.size ∧ a.blob = none := by
  have hidle : Tracker.Recorded n [] (t.get? n) := by
    rw [h]
    intro call hcall
    cases hcall
  have hmade := hidle.run (ends_of_get? hafter)
  rw [hafter] at hmade
  obtain ⟨before, first, seen, later, heq, -, htells⟩ := hmade
  cases before with
  | nil =>
    cases heq
    have hplace := htells.place
    exact ⟨seen, htells.sighting, congrArg Prod.fst hplace, congrArg Prod.snd hplace⟩
  | cons => simp at heq

private theorem tracked_of_sighting {seen : Tracker.Sighting} (hseen : d.call.sighting? n = some seen) :
    ∃ a, (d.call.run t).get? n = some a := by
  cases d with
  | look number size policy now =>
    obtain ⟨rfl, -⟩ := Option.ite_none_right_eq_some.1 hseen
    exact ⟨_, Tracker.get?_getOrCreate_self⟩
  | access number size policy now =>
    obtain ⟨rfl, -⟩ := Option.ite_none_right_eq_some.1 hseen
    exact ⟨_, Tracker.get?_recordAccess.trans (if_pos rfl)⟩
  | commit | evict => cases hseen

private theorem move?_of_not_disturbs (hd : d.disturbs n = false) : d.move? n = none := by
  cases d with
  | commit result blob => exact if_neg (by simpa [disturbs] using hd)
  | look | access | evict => rfl

/-- Whatever disturbs a block and does not end its record is a move of it. -/
theorem eq_commit (hd : d.disturbs n = true) (hends : d.call.ends n = false) :
    ∃ result blob, d = commit result blob ∧ result.number = n := by
  cases d with
  | commit result blob => exact ⟨result, blob, rfl, by simpa [disturbs] using hd⟩
  | evict number =>
    have hn : number = n := by simpa [disturbs] using hd
    simp [call, Tracker.Call.ends, hn] at hends
  | look | access => cases hd

end Deed

def replay (t : Tracker) (log : List Deed) : Tracker := log.foldl (fun t d => d.call.run t) t

/-- Deeds are replayed one after another. -/
theorem replay_append (t : Tracker) (log more : List Deed) : replay t (log ++ more) = replay (replay t log) more :=
  List.foldl_append

structure Path (origin : Tier) (moves : List MoveResult) : Prop where
  first : ∀ r ∈ moves.head?, r.origin = origin
  linked : moves.IsChain fun r next => next.origin = r.target

private theorem Path.cons {r : MoveResult} {moves : List MoveResult} (h : Path r.target moves) :
    Path r.origin (r :: moves) where
  first := by
    rintro _ ⟨⟩
    rfl
  linked := List.isChain_cons.2 ⟨h.first, h.linked⟩

def Honest : Tracker → List Deed → Prop
  | _, [] => True
  | t, d :: log => (∀ r blob, d = .commit r blob → ∃ a, t.get? r.number = some a ∧ r.origin = a.tier) ∧
      Honest (d.call.run t) log

namespace Honest

variable {t : Tracker} {log more : List Deed} {n : UInt64} {a : Access}

/-- A log is honest if its parts are, each in the tracker it finds. -/
theorem append : Honest t (log ++ more) ↔ Honest t log ∧ Honest (replay t log) more := by
  induction log generalizing t with
  | nil => simp [Honest, replay]
  | cons d log ih =>
    rw [List.cons_append, Honest, Honest, ih, and_assoc]
    rfl

/-- As long as a block keeps its record, its moves lead on from where it was. -/
theorem path (h : Honest t log) (hget : t.get? n = some a) (hends : ∀ d ∈ log, d.call.ends n = false) :
    Path a.tier ((log.filterMap (Deed.move? n)).map Prod.fst) := by
  induction log generalizing t a with
  | nil =>
    constructor
    · intro r hr
      cases hr
    · exact .nil
  | cons d log ih =>
    have hlater : ∀ d ∈ log, d.call.ends n = false := fun d' hd' => hends d' (List.mem_cons_of_mem _ hd')
    cases hd : d.disturbs n with
    | true =>
      obtain ⟨r, blob, rfl, rfl⟩ := Deed.eq_commit hd (hends d List.mem_cons_self)
      obtain ⟨b, hb, horigin⟩ := h.1 r blob rfl
      rw [hget] at hb
      cases hb
      have hrest := ih h.2 (Deed.moves hget) hlater
      have hmove : (Deed.commit r blob).move? r.number = some (r, blob) := if_pos rfl
      rw [List.filterMap_cons_some hmove, List.map_cons, ← horigin]
      exact Path.cons hrest
    | false =>
      obtain ⟨a', hget', htier, -⟩ := Deed.keeps hd hget
      rw [List.filterMap_cons_none (Deed.move?_of_not_disturbs hd), ← htier]
      exact ih h.2 hget' hlater

end Honest

/-- A part of a log in which a block keeps one record: the deed before it has made the record, which tells of what was
seen of the block, and no deed in it ends the record. -/
def Life (n : UInt64) (log : List Deed) (seen : Tracker.Sighting) (later rest : List Deed) : Prop :=
  ∃ before first, log = before ++ first :: (later ++ rest) ∧ (replay .empty before).get? n = none ∧
    first.call.sighting? n = some seen ∧ ∀ d ∈ later, d.call.ends n = false

/-- Where the latest of some moves has brought a block that began in some tier without a reference. -/
def latest (initial : Tier) (moves : List (MoveResult × Option BlobRef)) : Tier × Option BlobRef :=
  (moves.getLast?.map fun m => (m.1.target, m.2)).getD (initial, none)

namespace Life

variable {n : UInt64} {log later rest : List Deed} {seen : Tracker.Sighting} {d : Deed}

private theorem extend (h : Life n log seen later []) (hends : d.call.ends n = false) :
    Life n (log ++ [d]) seen (later ++ [d]) [] := by
  obtain ⟨before, first, heq, hnone, hseen, hall⟩ := h
  refine ⟨before, first, ?_, hnone, hseen, ?_⟩
  · rw [heq]
    simp
  · intro d' hd'
    rcases List.mem_append.1 hd' with hd' | hd'
    · exact hall d' hd'
    · rw [List.mem_singleton.1 hd']
      exact hends

/-- The moves while a block keeps a record lead on from the tier that it began in. -/
theorem path (h : Life n log seen later rest) (hhonest : Honest .empty log) :
    Path (seen.policy.initialTier seen.size) ((later.filterMap (Deed.move? n)).map Prod.fst) := by
  obtain ⟨before, first, rfl, hnone, hseen, hends⟩ := h
  obtain ⟨-, -, hrest⟩ := Honest.append.1 hhonest
  obtain ⟨a, hget⟩ := Deed.tracked_of_sighting hseen
  obtain ⟨made, hmade, htier, -⟩ := Deed.makes hnone hget
  obtain rfl : seen = made := Option.some.inj (hseen.symm.trans hmade)
  rw [← htier]
  exact (Honest.append.1 hrest).1.path hget hends

end Life

/-- A tracked block is where the latest move of its record has brought it. -/
theorem exists_life (log : List Deed) {n : UInt64} {a : Access} (h : (replay .empty log).get? n = some a) :
    ∃ seen later, Life n log seen later [] ∧
      (a.tier, a.blob) = latest (seen.policy.initialTier seen.size) (later.filterMap (Deed.move? n)) := by
  induction log using List.reverseRecOn generalizing a with
  | nil =>
    rw [replay, List.foldl_nil, Tracker.get?_empty] at h
    cases h
  | append_singleton log d ih =>
    rw [replay_append] at h
    change (d.call.run (replay .empty log)).get? n = some a at h
    cases hbefore : (replay .empty log).get? n with
    | none =>
      obtain ⟨seen, hseen, htier, hblob⟩ := Deed.makes hbefore h
      refine ⟨seen, [], ⟨log, d, rfl, hbefore, hseen, fun _ hd' => absurd hd' List.not_mem_nil⟩, ?_⟩
      rw [htier, hblob]
      rfl
    | some b =>
      obtain ⟨seen, later, hlife, hplace⟩ := ih hbefore
      have hends := Deed.ends_of_get? h
      refine ⟨seen, later ++ [d], hlife.extend hends, ?_⟩
      rw [List.filterMap_append]
      cases hd : d.disturbs n with
      | true =>
        obtain ⟨r, blob, rfl, rfl⟩ := Deed.eq_commit hd hends
        rw [Deed.moves hbefore] at h
        cases h
        simp [latest, Deed.move?]
      | false =>
        obtain ⟨a', hget', htier, hblob⟩ := Deed.keeps hd hbefore
        rw [h] at hget'
        cases hget'
        rw [htier, hblob, hplace]
        simp [Deed.move?_of_not_disturbs hd]

end TieredLedger
