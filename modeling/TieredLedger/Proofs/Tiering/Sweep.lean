import Mathlib.Data.List.Nodup
import Mathlib.Data.List.Perm.Subperm
import TieredLedger.Proofs.Classify
import TieredLedger.Proofs.Tiering.Atomicity
import TieredLedger.Store.Memory

/-! A sweep accounts for every block: it tries exactly the moves of misplaced blocks, in their order, and each block ends
where it belongs unless its move failed. A second sweep at the same time tries exactly the moves that failed. -/
namespace TieredLedger

/-- The numbers of the blocks whose moves failed. -/
def failedNumbers (results : List MoveResult) : List UInt64 := (results.filter fun r => !r.success).map (·.number)

private theorem failedNumbers_append (results more : List MoveResult) :
    failedNumbers (results ++ more) = failedNumbers results ++ failedNumbers more := by
  rw [failedNumbers, List.filter_append, List.map_append]
  rfl

private theorem failedNumbers_sublist (results : List MoveResult) :
    (failedNumbers results).Sublist (results.map (·.number)) :=
  List.filter_sublist.map _

theorem number_ne_of_mem {first later : Block} {blocks : List Block} (hfirst : first.number ∉ blocks.map (·.number))
    (hlater : later ∈ blocks) : later.number ≠ first.number := by
  intro hsame
  apply hfirst
  rw [← hsame]
  exact List.mem_map_of_mem hlater

namespace Service

variable {σ : Type} {api : BlobStore σ} {clock now : Instant} {block : Block} {blocks : List Block} {s s' after : Service σ}
  {deflate : Bytes → Bytes} {policy : Policy} {password : Option String} {access : Access} {target : Tier}

/-- Whether a block is in another tier than the one recommended for it. -/
def misplaced (s : Service σ) (now : Instant) (block : Block) : Bool :=
  decide (s.recommended now block ≠ (s.recordOf now block).tier)

/-- The recommendation goes by the record that a move would find. -/
theorem recommended_eq : s.recommended now block = classify block (s.recordOf now block) s.policy now := by
  rw [recommended, tracked_fst]

/-- On the chain a payload stays where it is, and the store is not asked. -/
theorem run_carry_onChain (haccess : access.tier.isOffChain = false) (htarget : target.isOffChain = false) (store : σ) :
    (carry api deflate policy password now block access target).run store =
    (.ok (knownCopy block access, none), store) := by
  rw [carry]
  split
  · rw [cool, htarget]
    rfl
  · exact run_warm_stay (Or.inl haccess) store

/-- What is known of a block depends on its own record and the policy. -/
theorem recordOf_congr (hget : s'.tracker.get? block.number = s.tracker.get? block.number)
    (hpolicy : s'.policy = s.policy) : s'.recordOf now block = s.recordOf now block := by
  rw [recordOf, recordOf, hget, hpolicy]

/-- The recommendation depends on the record of the block and on the policy only. -/
theorem recommended_congr (hget : s'.tracker.get? block.number = s.tracker.get? block.number)
    (hpolicy : s'.policy = s.policy) : s'.recommended now block = s.recommended now block := by
  rw [recommended_eq, recommended_eq, recordOf_congr hget hpolicy, hpolicy]

private theorem misplaced_congr (hget : s'.tracker.get? block.number = s.tracker.get? block.number)
    (hpolicy : s'.policy = s.policy) : s'.misplaced now block = s.misplaced now block := by
  rw [misplaced, misplaced, recommended_congr hget hpolicy, recordOf_congr hget hpolicy]

private theorem begun_of_get? {a : Access} (h : s.tracker.get? block.number = some a) : s.begun now block = s := by
  rw [begun, tracked, Tracker.getOrCreate_of_get? h]

/-- A move that follows begins with the same record. -/
theorem tracked_begun : (s.begun now block).tracked clock block = (s.recordOf now block, (s.tracked now block).2) :=
  Tracker.getOrCreate_of_get? get?_tracked

/-- What a sweep does about one block, and the result of the move if it tries one. -/
structure Visited (now : Instant) (s : Service σ) (block : Block) (result? : Option MoveResult)
    (after : Service σ) : Prop where
  policy : after.policy = s.policy
  others : ∀ n ≠ block.number, after.tracker.get? n = s.tracker.get? n
  tried : result?.isSome = s.misplaced now block
  names : ∀ r ∈ result?, r.number = block.number ∧ r.origin = (s.recordOf now block).tier ∧
    r.target = s.recommended now block
  settled : result? = none → after = s.begun now block
  moved : ∀ r ∈ result?, r.success = true → after.migrations = s.migrations + 1 ∧ ∃ blob,
    after.tracker.get? block.number = some ((s.recordOf now block).moved (s.recommended now block) blob)
  failed : ∀ r ∈ result?, r.success = false → after.migrations = s.migrations ∧
    after.tracker.get? block.number = some (s.recordOf now block) ∧
      (r.origin.isOffChain = true ∨ r.target.isOffChain = true)

namespace Visited

variable {result? : Option MoveResult}

private theorem begun (h : s.recommended now block = (s.recordOf now block).tier) :
    Visited now s block none (s.begun now block) where
  policy := rfl
  others _ hn := get?_tracked_of_ne hn
  tried := by simp [misplaced, h]
  names _ hr := by cases hr
  settled _ := rfl
  moved _ hr := by cases hr
  failed _ hr := by cases hr

private theorem migrate (clock : Instant) (h : s.recommended now block ≠ (s.recordOf now block).tier)
    {r : MoveResult × Service σ}
    (hends : MoveEnds api clock block (s.recommended now block) (s.begun now block) r) :
    Visited now s block (some r.1) r.2 := by
  have htried : true = s.misplaced now block := by simp [misplaced, h]
  have htracked : (s.begun now block).tracked clock block = (s.recordOf now block, (s.tracked now block).2) :=
    tracked_begun
  cases hends with
  | already htier =>
    rw [htracked] at htier
    exact absurd htier.symm h
  | failed hne answer =>
    rw [htracked] at answer ⊢
    refine ⟨rfl, fun n hn => get?_tracked_of_ne hn, htried, ?_, nofun, ?_, ?_⟩
    · rintro _ ⟨⟩
      exact ⟨rfl, rfl, rfl⟩
    · rintro _ ⟨⟩ hsuccess
      cases hsuccess
    · rintro _ ⟨⟩ -
      refine ⟨rfl, get?_tracked, ?_⟩
      by_contra hchain
      rw [not_or, Bool.not_eq_true, Bool.not_eq_true] at hchain
      rw [run_carry_onChain hchain.1 hchain.2] at answer
      cases answer
  | moved hne answer =>
    rw [htracked] at answer ⊢
    refine ⟨rfl, ?_, htried, ?_, nofun, ?_, ?_⟩
    · intro n hn
      dsimp only
      rw [Tracker.get?_insert, if_neg hn.symm]
      exact get?_tracked_of_ne hn
    · rintro _ ⟨⟩
      exact ⟨rfl, rfl, rfl⟩
    · rintro _ ⟨⟩ -
      exact ⟨rfl, _, Tracker.get?_insert.trans (if_pos rfl)⟩
    · rintro _ ⟨⟩ hfailed
      cases hfailed

/-- The block is tracked afterwards. Nothing in its record that the recommendation reads has changed, and its tier is
the recommended one unless a move failed. -/
theorem record (h : Visited now s block result? after) : ∃ a, after.tracker.get? block.number = some a ∧
    a.lastAccessed = (s.recordOf now block).lastAccessed ∧ a.count = (s.recordOf now block).count ∧
      a.tier = if block.number ∈ failedNumbers result?.toList then (s.recordOf now block).tier
        else s.recommended now block := by
  cases result? with
  | none =>
    have hplaced : s.recommended now block = (s.recordOf now block).tier := by
      have htried := h.tried
      simpa [misplaced] using htried
    rw [h.settled rfl]
    refine ⟨s.recordOf now block, get?_tracked, rfl, rfl, ?_⟩
    rw [hplaced, ite_self]
  | some r =>
    have hnumber := (h.names r rfl).1
    cases hsuccess : r.success with
    | true =>
      obtain ⟨-, blob, hget⟩ := h.moved r rfl hsuccess
      refine ⟨_, hget, Access.lastAccessed_moved .., Access.count_moved .., ?_⟩
      rw [Access.tier_moved, if_neg]
      simp [failedNumbers, hsuccess]
    | false =>
      obtain ⟨-, hget, -⟩ := h.failed r rfl hsuccess
      refine ⟨_, hget, rfl, rfl, ?_⟩
      simp [failedNumbers, hsuccess, hnumber]

private theorem migrations (h : Visited now s block result? after) :
    after.migrations = s.migrations + UInt64.ofNat (result?.toList.countP (·.success)) := by
  cases result? with
  | none =>
    rw [h.settled rfl]
    simp [Service.begun]
  | some r =>
    cases hsuccess : r.success with
    | true =>
      rw [(h.moved r rfl hsuccess).1]
      simp [hsuccess]
    | false =>
      rw [(h.failed r rfl hsuccess).1]
      simp [hsuccess]

end Visited

/-- What a sweep does about blocks one after another, and the results of the moves that it tries. -/
inductive Sweeps (now : Instant) : Service σ → List Block → List MoveResult → Service σ → Prop
  | done {s : Service σ} : Sweeps now s [] [] s
  | visit {s between after : Service σ} {block : Block} {blocks : List Block} {result? : Option MoveResult}
      {results : List MoveResult} (visited : Visited now s block result? between)
      (rest : Sweeps now between blocks results after) :
      Sweeps now s (block :: blocks) (result?.toList ++ results) after

private theorem visited_sweepBlock (api : BlobStore σ) (clock now : Instant) (report : SweepReport) (block : Block)
    (s : Service σ) : ∃ result? after, (sweepBlock api clock now report block).run s =
      (result?.toList.foldl SweepReport.record report, after) ∧ Visited now s block result? after := by
  rw [run_sweepBlock]
  split
  · next hplaced =>
    rw [tracked_fst] at hplaced
    exact ⟨none, _, rfl, .begun hplaced⟩
  · next hmisplaced =>
    rw [tracked_fst] at hmisplaced
    exact ⟨some _, _, rfl, .migrate clock hmisplaced (migrate_ends api clock block _ _)⟩

private theorem sweeps_foldlM (api : BlobStore σ) (clock now : Instant) (blocks : List Block) (report : SweepReport)
    (s : Service σ) : ∃ results after, (blocks.foldlM (sweepBlock api clock now) report).run s =
      (results.foldl SweepReport.record report, after) ∧ Sweeps now s blocks results after := by
  induction blocks generalizing report s with
  | nil => exact ⟨[], s, rfl, .done⟩
  | cons block blocks ih =>
    obtain ⟨result?, between, hrun, hvisited⟩ := visited_sweepBlock api clock now report block s
    obtain ⟨results, after, hrest, hsweeps⟩ := ih (result?.toList.foldl SweepReport.record report) between
    refine ⟨result?.toList ++ results, after, ?_, .visit hvisited hsweeps⟩
    rw [List.foldlM_cons, run_then, hrun, List.foldl_append]
    exact hrest

private theorem foldl_record (report : SweepReport) (results : List MoveResult) :
    results.foldl SweepReport.record report = { report with
      migrated := report.migrated + results.countP (·.success)
      failed := report.failed + (failedNumbers results).length
      results := report.results ++ results } := by
  induction results generalizing report with
  | nil => simp [failedNumbers]
  | cons r results ih =>
    rw [List.foldl_cons, ih]
    cases hsuccess : r.success with
    | true =>
      simp [SweepReport.record, failedNumbers, hsuccess]
      omega
    | false =>
      simp [SweepReport.record, failedNumbers, hsuccess]
      omega

def reportOf (blocks : List Block) (results : List MoveResult) : SweepReport :=
  ⟨blocks.length, results.countP (·.success), (failedNumbers results).length, results, true⟩

/-- A sweep that is turned on visits every block. -/
theorem sweeps_of_autoTiering (api : BlobStore σ) (clock now : Instant) (blocks : List Block)
    (hauto : s.policy.autoTiering = true) : ∃ results after,
      (sweep api clock now blocks).run s = (reportOf blocks results, after) ∧ Sweeps now s blocks results after := by
  obtain ⟨results, after, hrun, hsweeps⟩ := sweeps_foldlM api clock now blocks (.start blocks.length) s
  have hreport : results.foldl SweepReport.record (.start blocks.length) =
      { reportOf blocks results with completed := false } := by
    rw [foldl_record]
    simp [reportOf, SweepReport.start]
  refine ⟨results, after, ?_, hsweeps⟩
  rw [hreport] at hrun
  rw [sweep, run_then, run_get, hauto]
  simp only [Bool.not_true, Bool.false_eq_true, if_false]
  rw [run_then, hrun]
  rfl

private theorem run_sweep_off (api : BlobStore σ) (clock now : Instant) (blocks : List Block)
    (hauto : s.policy.autoTiering = false) : (sweep api clock now blocks).run s = (.disabled, s) := by
  rw [sweep, run_then, run_get, hauto]
  rfl

namespace Sweeps

variable {results : List MoveResult}

/-- A sweep keeps the policy. -/
theorem policy_eq (h : Sweeps now s blocks results after) : after.policy = s.policy := by
  induction h with
  | done => rfl
  | visit visited rest ih => rw [ih, visited.policy]

private theorem get?_of_not_mem (h : Sweeps now s blocks results after) {n : UInt64} (hn : n ∉ blocks.map (·.number)) :
    after.tracker.get? n = s.tracker.get? n := by
  induction h with
  | done => rfl
  | visit visited rest ih =>
    rw [List.map_cons, List.mem_cons, not_or] at hn
    rw [ih hn.2, visited.others n hn.1]

private theorem migrations (h : Sweeps now s blocks results after) :
    after.migrations = s.migrations + UInt64.ofNat (results.countP (·.success)) := by
  induction h with
  | done => simp
  | visit visited rest ih =>
    rw [ih, visited.migrations, List.countP_append, UInt64.ofNat_add, UInt64.add_assoc]

/-- Moves are tried for the misplaced blocks, in their order. -/
theorem numbers (h : Sweeps now s blocks results after) (hdistinct : (blocks.map (·.number)).Nodup) :
    results.map (·.number) = (blocks.filter (s.misplaced now)).map (·.number) := by
  induction h with
  | done => rfl
  | @visit s between after block blocks result? results visited rest ih =>
    rw [List.map_cons, List.nodup_cons] at hdistinct
    have hlater : blocks.filter (between.misplaced now) = blocks.filter (s.misplaced now) := by
      apply List.filter_congr
      intro later hmem
      have hne := number_ne_of_mem hdistinct.1 hmem
      exact misplaced_congr (visited.others _ hne) visited.policy
    rw [List.map_append, ih hdistinct.2, hlater, List.filter_cons, ← visited.tried]
    cases result? with
    | none => rfl
    | some r =>
      rw [if_pos (show (some r).isSome = true from rfl), List.map_cons, ← (visited.names r rfl).1]
      rfl

/-- Nothing in the record of a block that a recommendation reads changes, and the block ends in the recommended tier
unless its move failed. -/
theorem record (h : Sweeps now s blocks results after) (hdistinct : (blocks.map (·.number)).Nodup)
    (hblock : block ∈ blocks) : ∃ a, after.tracker.get? block.number = some a ∧
      a.lastAccessed = (s.recordOf now block).lastAccessed ∧ a.count = (s.recordOf now block).count ∧
        a.tier = if block.number ∈ failedNumbers results then (s.recordOf now block).tier
          else s.recommended now block := by
  induction h with
  | done => cases hblock
  | @visit s between after first blocks result? results visited rest ih =>
    rw [List.map_cons, List.nodup_cons] at hdistinct
    have hlater : ∀ n ∈ failedNumbers results, n ∈ blocks.map (·.number) := by
      intro n hn
      have hmem := (failedNumbers_sublist results).subset hn
      rw [rest.numbers hdistinct.2] at hmem
      exact (List.filter_sublist.map _).subset hmem
    simp only [failedNumbers_append, List.mem_append]
    rcases List.mem_cons.1 hblock with rfl | hmem
    · obtain ⟨a, hget, hlast, hcount, htier⟩ := visited.record
      have hnot : block.number ∉ failedNumbers results := fun hn => hdistinct.1 (hlater _ hn)
      refine ⟨a, ?_, hlast, hcount, ?_⟩
      · rw [rest.get?_of_not_mem hdistinct.1, hget]
      · simp only [hnot, or_false]
        exact htier
    · have hne := number_ne_of_mem hdistinct.1 hmem
      have hnot : block.number ∉ failedNumbers result?.toList := by
        intro hn
        obtain ⟨r, hr, hnumber⟩ := List.mem_map.1 hn
        have hresult : r ∈ result? := Option.mem_toList.1 (List.mem_filter.1 hr).1
        exact hne (hnumber.symm.trans (visited.names r hresult).1)
      have hsame := visited.others _ hne
      obtain ⟨a, hget, hlast, hcount, htier⟩ := ih hdistinct.2 hmem
      rw [recordOf_congr hsame visited.policy] at hlast hcount htier
      rw [recommended_congr hsame visited.policy] at htier
      refine ⟨a, hget, hlast, hcount, ?_⟩
      simp only [hnot, false_or]
      exact htier

/-- Blocks that a sweep finds in their places stay as they are. -/
theorem eq_of_nil (h : Sweeps now s blocks [] after)
    (htracked : ∀ b ∈ blocks, (s.tracker.get? b.number).isSome = true) : after = s := by
  generalize hresults : ([] : List MoveResult) = results at h
  induction h with
  | done => rfl
  | @visit s between after block blocks result? results visited rest ih =>
    obtain ⟨hnone, rfl⟩ := List.append_eq_nil_iff.1 hresults.symm
    have hbegun := visited.settled (Option.toList_eq_nil_iff.1 hnone)
    obtain ⟨a, hget⟩ := Option.isSome_iff_exists.1 (htracked block List.mem_cons_self)
    rw [begun_of_get? hget] at hbegun
    subst hbegun
    exact ih (fun b hb => htracked b (List.mem_cons_of_mem _ hb)) rfl

/-- Afterwards a block is misplaced exactly if its move failed. -/
theorem misplaced_after (h : Sweeps now s blocks results after) (hdistinct : (blocks.map (·.number)).Nodup)
    (hblock : block ∈ blocks) : after.misplaced now block = decide (block.number ∈ failedNumbers results) := by
  obtain ⟨a, hget, hlast, hcount, htier⟩ := h.record hdistinct hblock
  have hsame : after.recommended now block = s.recommended now block := by
    rw [recommended_eq, recommended_eq, recordOf_of_get? hget, h.policy_eq, classify_congr hlast hcount]
  rw [misplaced, recordOf_of_get? hget, hsame, htier]
  by_cases hfailed : block.number ∈ failedNumbers results
  · have htried : block.number ∈ results.map (·.number) := (failedNumbers_sublist results).subset hfailed
    rw [h.numbers hdistinct] at htried
    obtain ⟨tried, hmem, hnumber⟩ := List.mem_map.1 htried
    obtain ⟨hin, hmisplaced⟩ := List.mem_filter.1 hmem
    have heq : tried = block := List.inj_on_of_nodup_map hdistinct hin hblock hnumber
    rw [heq, misplaced] at hmisplaced
    simpa [hfailed] using hmisplaced
  · simp [hfailed]

private theorem failedNumbers_sublist_blocks (h : Sweeps now s blocks results after)
    (hdistinct : (blocks.map (·.number)).Nodup) : (failedNumbers results).Sublist (blocks.map (·.number)) := by
  refine (failedNumbers_sublist results).trans ?_
  rw [h.numbers hdistinct]
  exact List.filter_sublist.map _

/-- The moves that a second sweep at the same time tries are those that failed in the first. -/
theorem numbers_again {more : List MoveResult} (h : Sweeps now s blocks results after)
    (hagain : Sweeps now after blocks more s') (hdistinct : (blocks.map (·.number)).Nodup) :
    more.map (·.number) = failedNumbers results := by
  have hfailed : blocks.filter (after.misplaced now) =
      blocks.filter ((fun n => decide (n ∈ failedNumbers results)) ∘ (·.number)) := by
    apply List.filter_congr
    intro b hb
    exact h.misplaced_after hdistinct hb
  rw [hagain.numbers hdistinct, hfailed, ← List.filter_map]
  have hkept : (failedNumbers results).Sublist
      ((blocks.map (·.number)).filter fun n => decide (n ∈ failedNumbers results)) := by
    have hall : (failedNumbers results).filter (fun n => decide (n ∈ failedNumbers results)) = failedNumbers results :=
      List.filter_eq_self.2 fun n hn => decide_eq_true hn
    have hfilter := (h.failedNumbers_sublist_blocks hdistinct).filter fun n => decide (n ∈ failedNumbers results)
    rwa [hall] at hfilter
  have hlength := ((hdistinct.filter fun n => decide (n ∈ failedNumbers results)).subperm
    fun n hn => of_decide_eq_true (List.mem_filter.1 hn).2).length_le
  exact (hkept.eq_of_length_le hlength).symm

end Sweeps

/-- A sweep accounts for every block and settles. Its report counts the blocks, the moves that went well and those that
failed; the moves are in the order of the blocks, and the counter goes up by those that went well. Each block ends in
the tier recommended for its record, unless its move failed and it stayed where it was. A second sweep at the same time
tries just the moves that failed, and changes nothing if there are none. Where sweeps are turned off nothing happens. -/
theorem sweep_accounts_and_settles (api : BlobStore σ) (clock now : Instant) (blocks : List Block) (s : Service σ)
    (hdistinct : (blocks.map (·.number)).Nodup) :
    (s.policy.autoTiering = true → ∃ report after, (sweep api clock now blocks).run s = (report, after) ∧
      report.analyzed = blocks.length ∧ report.migrated + report.failed = report.results.length ∧
      report.migrated = report.results.countP (·.success) ∧
      (report.results.map (·.number)).Sublist (blocks.map (·.number)) ∧
      after.migrations = s.migrations + UInt64.ofNat report.migrated ∧
      (∀ block ∈ blocks, ∃ a, after.tracker.get? block.number = some a ∧
        a.tier = if block.number ∈ failedNumbers report.results then (s.recordOf now block).tier
          else classify block a s.policy now) ∧
      ∀ (later : BlobStore σ) (clock' : Instant), ∃ again settled,
        (sweep later clock' now blocks).run after = (again, settled) ∧
        again.results.map (·.number) = failedNumbers report.results ∧
        (failedNumbers report.results = [] → again.results = [] ∧ settled = after)) ∧
    (s.policy.autoTiering = false → (sweep api clock now blocks).run s = (.disabled, s)) := by
  refine ⟨fun hauto => ?_, run_sweep_off api clock now blocks⟩
  obtain ⟨results, after, hrun, hsweeps⟩ := sweeps_of_autoTiering api clock now blocks hauto
  refine ⟨_, after, hrun, rfl, ?_, rfl, ?_, hsweeps.migrations, ?_, ?_⟩
  · have hcount := List.length_eq_countP_add_countP (fun r : MoveResult => r.success) (l := results)
    simpa [reportOf, failedNumbers, List.countP_eq_length_filter] using hcount.symm
  · change (results.map (·.number)).Sublist _
    rw [hsweeps.numbers hdistinct]
    exact List.filter_sublist.map _
  · intro block hblock
    obtain ⟨a, hget, hlast, hcount, htier⟩ := hsweeps.record hdistinct hblock
    refine ⟨a, hget, ?_⟩
    rw [classify_congr hlast hcount, ← recommended_eq]
    exact htier
  · intro later clock'
    rw [← hsweeps.policy_eq] at hauto
    obtain ⟨more, settled, hagain, hmore⟩ := sweeps_of_autoTiering later clock' now blocks hauto
    have hnumbers := hsweeps.numbers_again hmore hdistinct
    refine ⟨_, settled, hagain, hnumbers, ?_⟩
    intro hnone
    obtain rfl : more = [] := List.map_eq_nil_iff.1 (hnumbers.trans hnone)
    refine ⟨rfl, hmore.eq_of_nil ?_⟩
    intro b hb
    obtain ⟨a, hget, -⟩ := hsweeps.record hdistinct hb
    rw [hget]
    rfl

/-- A block of 1970 and a new one, swept in 2001 over a store in memory whose writes fail. -/
theorem sample_accounts_and_settles : ∃ now : Instant, ∃ blocks : List Block, ∃ report after, ∃ again settled,
    (blocks.map (·.number)).Nodup ∧
      (sweep MemoryStore.api now now blocks).run
          (create Deflate.compress .standard none { MemoryStore.empty with failWrites := true }) =
        (report, after) ∧
      report.migrated = 1 ∧ report.failed = 1 ∧ failedNumbers report.results = [1] ∧
      (sweep MemoryStore.api now now blocks).run after = (again, settled) ∧
      again.results.map (·.number) = [1] := by
  let now : Instant := { seconds := 1000000000, nanos := 0 }
  let blocks : List Block :=
    [{ (default : Block) with number := 1 }, { (default : Block) with number := 2, createdAt := now }]
  let s : Service MemoryStore := create Deflate.compress .standard none { MemoryStore.empty with failWrites := true }
  have hdistinct : (blocks.map (·.number)).Nodup := by decide
  obtain ⟨report, after, hrun, -, -, -, -, -, -, hagain⟩ :=
    (sweep_accounts_and_settles MemoryStore.api now now blocks s hdistinct).1 rfl
  obtain ⟨again, settled, hrun', hnumbers, -⟩ := hagain MemoryStore.api now
  have hreport : report = ((sweep MemoryStore.api now now blocks).run s).1 := by rw [hrun]
  have hmigrated : report.migrated = 1 := by rw [hreport]; decide +kernel
  have hfailed : report.failed = 1 := by rw [hreport]; decide +kernel
  have hfailures : failedNumbers report.results = [1] := by rw [hreport]; decide +kernel
  exact ⟨now, blocks, report, after, again, settled, hdistinct, hrun, hmigrated, hfailed, hfailures, hrun',
    hnumbers.trans hfailures⟩

end Service

end TieredLedger
