import Mathlib.Algebra.GroupWithZero.Nat
import Mathlib.Logic.Function.Basic
import Mathlib.Tactic.SplitIfs
import TieredLedger.Statistics

/-! The statistics of a list of tracked blocks are exact, whatever the order of the list, or they are refused with an
error that names the first block at which the figures stop fitting. -/
namespace TieredLedger

namespace TierFigures

def ofFun (g : Tier → UInt64) : TierFigures := Tier.all.map fun t => (t, g t)

variable (g : Tier → UInt64) (t : Tier)

@[simp] theorem get_ofFun : (ofFun g).get t = g t := by
  cases t <;> rfl

private theorem set_ofFun (n : UInt64) : (ofFun g).set t n = ofFun (Function.update g t n) := by
  cases t <;> rfl

private theorem sum_ofFun : (ofFun g).sum = (Tier.all.map fun t => (g t).toNat).sum := by
  simp [ofFun, sum, Tier.all, Nat.add_assoc]

end TierFigures

namespace Statistics

variable {entries before after entries' : List (UInt64 × Access)} {number : UInt64} {a : Access}

def ofTier (t : Tier) (entries : List (UInt64 × Access)) : List (UInt64 × Access) := entries.filter fun e => e.2.tier = t

def payload (entries : List (UInt64 × Access)) : Nat := (entries.map fun e => e.2.size.toNat).sum

def exactEstimate (a : Access) : Nat := if a.tier.isOffChain then 2 * a.size.toNat / 5 else a.size.toNat

def estimatedPayload (entries : List (UInt64 × Access)) : Nat := (entries.map fun e => exactEstimate e.2).sum

/-- Off the chain, and too large to be estimated. -/
def Unestimable (a : Access) : Prop := a.tier.isOffChain ∧ maxEstimable < a.size

instance (a : Access) : Decidable (Unestimable a) := inferInstanceAs (Decidable (_ ∧ _))

/-- Blocks of which one cannot be estimated, or whose payloads are more than a word counts. -/
def Excessive (entries : List (UInt64 × Access)) : Prop :=
  (∃ e ∈ entries, Unestimable e.2) ∨ UInt64.size ≤ payload entries

instance (entries : List (UInt64 × Access)) : Decidable (Excessive entries) := inferInstanceAs (Decidable (_ ∨ _))

/-- How a block is refused that comes after others: it cannot be estimated itself, or else the sum of the payloads does
not fit. -/
inductive Refusal (before : List (UInt64 × Access)) (number : UInt64) (a : Access) : StoreError → Prop
  | unestimable (h : Unestimable a) : Refusal before number a (.unestimable number a.tier.name a.size maxEstimable)
  | overflow (h : ¬ Unestimable a) (hsum : UInt64.size ≤ payload before + a.size.toNat) :
    Refusal before number a (.totalOverflow number a.size)

/-! ### Sums over blocks -/

@[simp] theorem payload_append : payload (before ++ after) = payload before + payload after := by
  simp [payload]

@[simp] theorem estimatedPayload_append :
    estimatedPayload (before ++ after) = estimatedPayload before + estimatedPayload after := by
  simp [estimatedPayload]

@[simp] theorem payload_singleton (e : UInt64 × Access) : payload [e] = e.2.size.toNat := by
  simp [payload]

@[simp] theorem estimatedPayload_singleton (e : UInt64 × Access) : estimatedPayload [e] = exactEstimate e.2 := by
  simp [estimatedPayload]

private theorem ofTier_concat (t : Tier) (e : UInt64 × Access) :
    ofTier t (before ++ [e]) = if e.2.tier = t then ofTier t before ++ [e] else ofTier t before := by
  simp only [ofTier, List.filter_append]
  split_ifs with h <;> simp [h]

/-- Each block is in one tier. -/
theorem sum_ofTier (f : UInt64 × Access → Nat) (entries : List (UInt64 × Access)) :
    (Tier.all.map fun t => ((ofTier t entries).map f).sum).sum = (entries.map f).sum := by
  induction entries with
  | nil => rfl
  | cons e entries ih =>
    simp only [Tier.all, ofTier, List.map_cons, List.map_nil, List.sum_cons, List.sum_nil, List.filter_cons] at ih ⊢
    cases e.2.tier <;> simp at ih ⊢ <;> omega

private theorem payload_ofTier_le (t : Tier) (entries : List (UInt64 × Access)) :
    payload (ofTier t entries) ≤ payload entries := by
  have := sum_ofTier (fun e => e.2.size.toNat) entries
  simp only [Tier.all, List.map_cons, List.map_nil, List.sum_cons, List.sum_nil] at this
  cases t <;> simp only [payload] <;> omega

private theorem exactEstimate_le (a : Access) : exactEstimate a ≤ a.size.toNat := by
  rw [exactEstimate]
  split_ifs <;> omega

private theorem estimatedPayload_le (entries : List (UInt64 × Access)) :
    estimatedPayload entries ≤ payload entries := by
  induction entries with
  | nil => exact Nat.le_refl _
  | cons e entries ih =>
    have := exactEstimate_le e.2
    simp only [estimatedPayload, payload, List.map_cons, List.sum_cons] at ih ⊢
    omega

/-! ### Running totals -/

private theorem add?_ofNat {x : Nat} (hx : x < UInt64.size) (b : UInt64) :
    add? (.ofNat x) b = if x + b.toNat < UInt64.size then some (.ofNat (x + b.toNat)) else none := by
  rw [add?, UInt64.toNat_ofNat_of_lt' hx, UInt64.ofNat_add, UInt64.ofNat_toNat]

/-- Nothing that can be estimated is too large to be doubled in a word. -/
theorem two_mul_lt (h : ¬ Unestimable a) (hoff : a.tier.isOffChain) : 2 * a.size.toNat < UInt64.size := by
  have hsize : a.size.toNat ≤ maxEstimable.toNat := Nat.le_of_not_lt fun hlarge => h ⟨hoff, hlarge⟩
  have hmax : maxEstimable.toNat = 4611686018427387903 := rfl
  rw [UInt64.size]
  omega

private theorem toNat_estimate (h : ¬ Unestimable a) : (estimate a.tier a.size).toNat = exactEstimate a := by
  rw [estimate, exactEstimate]
  split_ifs with hoff
  · have hfits : a.size.toNat * 2 < 2 ^ 64 := by
      rw [Nat.mul_comm]
      exact two_mul_lt h hoff
    rw [UInt64.toNat_div, UInt64.toNat_mul]
    change a.size.toNat * 2 % 2 ^ 64 / 5 = _
    rw [Nat.mod_eq_of_lt hfits, Nat.mul_comm]
  · rfl

def Totals.of (entries : List (UInt64 × Access)) : Totals where
  blocks := .ofFun fun t => .ofNat (ofTier t entries).length
  bytes := .ofFun fun t => .ofNat (payload (ofTier t entries))
  size := .ofNat (payload entries)
  estimated := .ofNat (estimatedPayload entries)

@[simp] theorem Totals.of_blocks_get (t : Tier) :
    (Totals.of entries).blocks.get t = .ofNat (ofTier t entries).length := by
  simp [Totals.of]

@[simp] theorem Totals.of_bytes_get (t : Tier) :
    (Totals.of entries).bytes.get t = .ofNat (payload (ofTier t entries)) := by
  simp [Totals.of]

private theorem Excessive.concat : Excessive (before ++ [(number, a)]) ↔
    Excessive before ∨ Unestimable a ∨ UInt64.size ≤ payload before + a.size.toNat := by
  simp only [Excessive, List.mem_append, List.mem_singleton, payload_append, payload_singleton]
  constructor
  · rintro (⟨e, he | rfl, hlarge⟩ | hsum)
    · exact Or.inl (Or.inl ⟨e, he, hlarge⟩)
    · exact Or.inr (Or.inl hlarge)
    · exact Or.inr (Or.inr hsum)
  · rintro ((⟨e, he, hlarge⟩ | hsum) | hlarge | hsum)
    · exact Or.inl ⟨e, Or.inl he, hlarge⟩
    · exact Or.inr (Nat.le_add_right_of_le hsum)
    · exact Or.inl ⟨(number, a), Or.inr rfl, hlarge⟩
    · exact Or.inr hsum

private theorem Totals.of_concat (before : List (UInt64 × Access)) (number : UInt64) (a : Access) :
    Totals.of (before ++ [(number, a)]) =
      { blocks := (Totals.of before).blocks.set a.tier ((Totals.of before).blocks.get a.tier + 1)
        bytes := (Totals.of before).bytes.set a.tier (.ofNat (payload (ofTier a.tier before) + a.size.toNat))
        size := .ofNat (payload before + a.size.toNat)
        estimated := .ofNat (estimatedPayload before + exactEstimate a) } := by
  simp only [Totals.of, payload_append, payload_singleton, estimatedPayload_append, estimatedPayload_singleton,
    TierFigures.get_ofFun, TierFigures.set_ofFun, Totals.mk.injEq, and_true]
  refine ⟨congrArg TierFigures.ofFun (funext fun t => ?_), congrArg TierFigures.ofFun (funext fun t => ?_)⟩
  all_goals
    rw [ofTier_concat, Function.update_apply]
    split_ifs with h₁ h₂ h₂ <;> simp_all

private theorem Totals.add_unestimable (h : Unestimable a) (t : Totals) (number : UInt64) :
    t.add number a = .error (.unestimable number a.tier.name a.size maxEstimable) :=
  if_pos h

private theorem Totals.add_estimable (h : ¬ Unestimable a) (t : Totals) (number : UInt64) :
    t.add number a = do
      let size ← orFail (.totalOverflow number a.size) (add? t.size a.size)
      let estimated ← orFail (.estimateOverflow number a.size) (add? t.estimated (estimate a.tier a.size))
      let bytes ← orFail (.tierOverflow number a.size) (add? (t.bytes.get a.tier) a.size)
      return ⟨t.blocks.set a.tier (t.blocks.get a.tier + 1), t.bytes.set a.tier bytes, size, estimated⟩ :=
  if_neg h

/-- A block adds its own figures to totals that fit, or it is refused. -/
theorem Totals.add_of (hbefore : ¬ Excessive before) (number : UInt64) (a : Access) :
    ¬ Excessive (before ++ [(number, a)]) ∧ (Totals.of before).add number a = .ok (.of (before ++ [(number, a)])) ∨
      ∃ e, Refusal before number a e ∧ (Totals.of before).add number a = .error e := by
  by_cases hlarge : Unestimable a
  · exact Or.inr ⟨_, .unestimable hlarge, add_unestimable hlarge _ _⟩
  have hfits : payload before < UInt64.size := Nat.lt_of_not_le fun h => hbefore (Or.inr h)
  have hestimated := estimatedPayload_le before
  have htier := payload_ofTier_le a.tier before
  have hexact := exactEstimate_le a
  rw [add_estimable hlarge, of_bytes_get, add?_ofNat (x := payload (ofTier a.tier before)) (by omega),
    show (Totals.of before).size = .ofNat (payload before) from rfl,
    show (Totals.of before).estimated = .ofNat (estimatedPayload before) from rfl, add?_ofNat hfits,
    add?_ofNat (by omega), toNat_estimate hlarge]
  by_cases hsum : payload before + a.size.toNat < UInt64.size
  · rw [if_pos hsum, if_pos (by omega), if_pos (by omega), of_concat]
    refine Or.inl ⟨?_, rfl⟩
    rw [Excessive.concat]
    rintro (h | h | h)
    · exact hbefore h
    · exact hlarge h
    · omega
  · rw [if_neg hsum]
    exact Or.inr ⟨_, .overflow hlarge (Nat.le_of_not_lt hsum), rfl⟩

private theorem not_excessive_nil : ¬ Excessive [] := by
  rintro (⟨e, he, -⟩ | h)
  · cases he
  · exact absurd h (by decide)

def runUp (entries : List (UInt64 × Access)) (start : Totals) : Except StoreError Totals :=
  entries.foldlM (fun t (number, a) => t.add number a) start

private theorem runUp_cons (number : UInt64) (a : Access) (entries : List (UInt64 × Access)) (start : Totals) :
    runUp ((number, a) :: entries) start = start.add number a >>= runUp entries :=
  List.foldlM_cons ..

private theorem Totals.of_nil : Totals.of [] = .zero :=
  rfl

/-- From totals that fit, more blocks are added up exactly, or one of them is refused. -/
theorem runUp_of (hbefore : ¬ Excessive before) (entries : List (UInt64 × Access)) :
    ¬ Excessive (before ++ entries) ∧ runUp entries (.of before) = .ok (.of (before ++ entries)) ∨
      ∃ middle number a after e, entries = middle ++ (number, a) :: after ∧ ¬ Excessive (before ++ middle) ∧
        Refusal (before ++ middle) number a e ∧ runUp entries (.of before) = .error e := by
  induction entries generalizing before with
  | nil => exact Or.inl ⟨by simpa using hbefore, by simp [runUp]; rfl⟩
  | cons entry entries ih =>
    obtain ⟨number, a⟩ := entry
    rcases Totals.add_of hbefore number a with ⟨hfits, hadd⟩ | ⟨e, hrefused, hadd⟩
    · rcases ih hfits with ⟨hall, hrun⟩ | ⟨middle, number', a', after, e, rfl, hmiddle, hrefused, hrun⟩
      · left
        rw [runUp_cons, hadd, List.append_cons]
        exact ⟨hall, hrun⟩
      · refine Or.inr ⟨(number, a) :: middle, number', a', after, e, rfl, by simpa using hmiddle,
          by simpa using hrefused, ?_⟩
        rw [runUp_cons, hadd]
        exact hrun
    · refine Or.inr ⟨[], number, a, entries, e, rfl, by simpa using hbefore, by simpa using hrefused, ?_⟩
      rw [runUp_cons, hadd]
      rfl

private theorem runUp_eq_ok {t : Totals} (h : runUp entries .zero = .ok t) : t = .of entries := by
  rw [← Totals.of_nil] at h
  rcases runUp_of not_excessive_nil entries with ⟨-, hrun⟩ | ⟨_, _, _, _, e, -, -, -, hrun⟩
  · exact Except.ok.inj (h.symm.trans hrun)
  · rw [h] at hrun
    cases hrun

/-! ### Exactness -/

private theorem Refusal.excessive {e : StoreError} (h : Refusal before number a e) :
    Excessive (before ++ [(number, a)]) := by
  rw [Excessive.concat]
  cases h with
  | unestimable h => exact Or.inr (Or.inl h)
  | overflow _ hsum => exact Or.inr (Or.inr hsum)

private theorem Refusal.kind_eq {e : StoreError} (h : Refusal before number a e) : e.kind = .outOfRange := by
  cases h <;> rfl

private theorem Excessive.append (h : Excessive before) (after : List (UInt64 × Access)) :
    Excessive (before ++ after) := by
  rcases h with ⟨e, he, hlarge⟩ | hsum
  · exact Or.inl ⟨e, List.mem_append_left _ he, hlarge⟩
  · right
    rw [payload_append]
    exact Nat.le_add_right_of_le hsum

def ofTotals (t : Totals) (migrations : UInt64) (now : Instant) : Statistics :=
  ⟨t.blocks, t.bytes, t.size, t.estimated, ratio t.estimated t.size, migrations, now⟩

private theorem compute_eq (entries : List (UInt64 × Access)) (migrations : UInt64) (now : Instant) :
    compute entries migrations now = (runUp entries .zero).map fun t => ofTotals t migrations now := by
  rw [compute, runUp]
  cases entries.foldlM (fun t (number, a) => t.add number a) Totals.zero <;> rfl

/-- Blocks that are not excessive have statistics; of others one is the first that is too much. -/
theorem compute_cases (entries : List (UInt64 × Access)) (migrations : UInt64) (now : Instant) :
    ¬ Excessive entries ∧ compute entries migrations now = .ok (ofTotals (.of entries) migrations now) ∨
      ∃ before number a after e, entries = before ++ (number, a) :: after ∧ ¬ Excessive before ∧
        Refusal before number a e ∧ compute entries migrations now = .error e := by
  rw [compute_eq, ← Totals.of_nil]
  rcases runUp_of not_excessive_nil entries with ⟨hfits, hrun⟩ | ⟨before, number, a, after, e, heq, hbefore, hrefused, hrun⟩
  · exact Or.inl ⟨hfits, by rw [hrun]; rfl⟩
  · exact Or.inr ⟨before, number, a, after, e, heq, hbefore, hrefused, by rw [hrun]; rfl⟩

private theorem excessive_of_refusal {e : StoreError} (h : Refusal before number a e) (after : List (UInt64 × Access)) :
    Excessive (before ++ (number, a) :: after) := by
  rw [List.append_cons]
  exact h.excessive.append after

private theorem compute_eq_error {e : StoreError} {migrations : UInt64} {now : Instant}
    (h : compute entries migrations now = .error e) : ∃ before number a after,
      entries = before ++ (number, a) :: after ∧ ¬ Excessive before ∧ Refusal before number a e := by
  rcases compute_cases entries migrations now with ⟨-, hok⟩ | ⟨before, number, a, after, e', heq, hbefore, hrefused, he⟩
  · rw [h] at hok
    cases hok
  · obtain rfl : e = e' := Except.error.inj (h.symm.trans he)
    exact ⟨before, number, a, after, heq, hbefore, hrefused⟩

private theorem compute_eq_ok {s : Statistics} {migrations : UInt64} {now : Instant} :
    compute entries migrations now = .ok s ↔ ¬ Excessive entries ∧ s = ofTotals (.of entries) migrations now := by
  rcases compute_cases entries migrations now with ⟨hfits, hok⟩ | ⟨_, _, _, after, _, rfl, -, hrefused, he⟩
  · rw [hok]
    exact ⟨fun h => ⟨hfits, (Except.ok.inj h).symm⟩, fun h => congrArg Except.ok h.2.symm⟩
  · rw [he]
    exact ⟨nofun, fun h => absurd (excessive_of_refusal hrefused after) h.1⟩

private theorem compute_fails_iff (entries : List (UInt64 × Access)) (migrations : UInt64) (now : Instant) :
    (∃ e, compute entries migrations now = .error e) ↔ Excessive entries := by
  constructor
  · rintro ⟨e, he⟩
    obtain ⟨before, number, a, after, rfl, -, hrefused⟩ := compute_eq_error he
    exact excessive_of_refusal hrefused after
  · intro h
    rcases compute_cases entries migrations now with ⟨hfits, -⟩ | ⟨_, _, _, _, e, -, -, -, he⟩
    · exact absurd h hfits
    · exact ⟨e, he⟩

private theorem excessive_perm (h : entries'.Perm entries) : Excessive entries' ↔ Excessive entries := by
  have hsum : payload entries' = payload entries := (h.map _).sum_nat
  simp only [Excessive, h.mem_iff, hsum]

private theorem Totals.of_perm (h : entries'.Perm entries) : Totals.of entries' = .of entries := by
  have hpayload {l l' : List (UInt64 × Access)} (hl : l.Perm l') : payload l = payload l' := (hl.map _).sum_nat
  have hestimated : estimatedPayload entries' = estimatedPayload entries := (h.map _).sum_nat
  have htier (t : Tier) : (ofTier t entries').Perm (ofTier t entries) := h.filter _
  simp only [Totals.of, hpayload h, hestimated, hpayload (htier _), (htier _).length_eq]

/-- Statistics that say of blocks what there is to say, to the last block and byte. -/
structure Exact (entries : List (UInt64 × Access)) (s : Statistics) : Prop where
  blocks : ∀ t, (s.blocksIn t).toNat = (ofTier t entries).length
  bytes : ∀ t, (s.bytesIn t).toNat = payload (ofTier t entries)
  /-- The number of all blocks is the sum of the tiers', which a word holds. -/
  all : s.blocksPerTier.sum = entries.length ∧ s.totalBlocks.toNat = entries.length
  total : s.totalSize.toNat = payload entries
  tiers : s.totalSize.toNat = (Tier.all.map fun t => (s.bytesIn t).toNat).sum
  estimated : s.estimatedSize.toNat = estimatedPayload entries
  saved : s.estimatedSize ≤ s.totalSize

private theorem length_ofTier_le (t : Tier) (entries : List (UInt64 × Access)) :
    (ofTier t entries).length ≤ entries.length :=
  List.length_filter_le ..

private theorem sum_length_ofTier (entries : List (UInt64 × Access)) :
    (Tier.all.map fun t => (ofTier t entries).length).sum = entries.length := by
  simpa [List.map_const'] using sum_ofTier (fun _ => 1) entries

private theorem toNat_blocks_of (hlen : entries.length < UInt64.size) (t : Tier) :
    ((Totals.of entries).blocks.get t).toNat = (ofTier t entries).length := by
  rw [Totals.of_blocks_get, UInt64.toNat_ofNat_of_lt' (Nat.lt_of_le_of_lt (length_ofTier_le t entries) hlen)]

private theorem exact_of (hlen : entries.length < UInt64.size) (h : ¬ Excessive entries)
    (migrations : UInt64) (now : Instant) :
    Exact entries (ofTotals (.of entries) migrations now) := by
  have hfits : payload entries < UInt64.size := Nat.lt_of_not_le fun hsum => h (Or.inr hsum)
  have hbytes (t : Tier) : ((Totals.of entries).bytes.get t).toNat = payload (ofTier t entries) := by
    rw [Totals.of_bytes_get, UInt64.toNat_ofNat_of_lt' (Nat.lt_of_le_of_lt (payload_ofTier_le t entries) hfits)]
  have htotal : (Totals.of entries).size.toNat = payload entries := UInt64.toNat_ofNat_of_lt' hfits
  have hestimate : (Totals.of entries).estimated.toNat = estimatedPayload entries :=
    UInt64.toNat_ofNat_of_lt' (Nat.lt_of_le_of_lt (estimatedPayload_le entries) hfits)
  have hall : (Totals.of entries).blocks.sum = entries.length := by
    rw [Totals.of, TierFigures.sum_ofFun, ← sum_length_ofTier]
    exact congrArg List.sum (List.map_congr_left fun t _ =>
      UInt64.toNat_ofNat_of_lt' (Nat.lt_of_le_of_lt (length_ofTier_le t entries) hlen))
  constructor
  case blocks => exact toNat_blocks_of hlen
  case bytes => exact hbytes
  case all =>
    refine ⟨hall, ?_⟩
    rw [totalBlocks, ofTotals, hall, UInt64.toNat_ofNat_of_lt' hlen]
  case total => exact htotal
  case tiers =>
    refine htotal.trans ((sum_ofTier (fun e => e.2.size.toNat) entries).symm.trans ?_)
    exact congrArg List.sum (List.map_congr_left fun t _ => (hbytes t).symm)
  case estimated => exact hestimate
  case saved =>
    rw [UInt64.le_iff_toNat_le]
    calc (Totals.of entries).estimated.toNat
      _ = estimatedPayload entries := hestimate
      _ ≤ payload entries := estimatedPayload_le entries
      _ = (Totals.of entries).size.toNat := htotal.symm

/-- The statistics of fewer than `2 ^ 63` blocks are refused exactly when a block off the chain cannot be estimated or
the payloads are more than a word counts, with an error that names the first block where that is so. Else they are exact,
and the same for every order of the blocks. The sums that are not checked never leave a word either. -/
theorem compute_exact_or_refused (entries : List (UInt64 × Access)) (hlen : entries.length < 2 ^ 63)
    (migrations : UInt64) (now : Instant) :
    ((∃ e, compute entries migrations now = .error e) ↔
      (∃ entry ∈ entries, Unestimable entry.2) ∨ UInt64.size ≤ payload entries) ∧
    (∀ e, compute entries migrations now = .error e → e.kind = .outOfRange ∧ ∃ before number a after,
      entries = before ++ (number, a) :: after ∧ ¬ Excessive before ∧ Refusal before number a e) ∧
    (∀ s, compute entries migrations now = .ok s →
      Exact entries s ∧ ∀ entries' : List (UInt64 × Access), entries'.Perm entries → compute entries' migrations now = .ok s) ∧
    ∀ before number a after t, entries = before ++ (number, a) :: after → runUp before .zero = .ok t → ¬ Unestimable a →
      (a.tier.isOffChain → 2 * a.size.toNat < UInt64.size) ∧ (t.blocks.get a.tier).toNat + 1 < UInt64.size := by
  have hword : entries.length + 1 < UInt64.size := by
    rw [UInt64.size]
    omega
  refine ⟨compute_fails_iff entries migrations now, ?_, ?_, ?_⟩
  · intro e he
    obtain ⟨before, number, a, after, heq, hbefore, hrefused⟩ := compute_eq_error he
    exact ⟨hrefused.kind_eq, before, number, a, after, heq, hbefore, hrefused⟩
  · intro s hs
    obtain ⟨hfits, rfl⟩ := compute_eq_ok.1 hs
    refine ⟨exact_of (by omega) hfits migrations now, fun entries' hperm => compute_eq_ok.2 ⟨?_, ?_⟩⟩
    · rwa [excessive_perm hperm]
    · rw [Totals.of_perm hperm]
  · rintro before number a after t rfl hrun hestimable
    refine ⟨two_mul_lt hestimable, ?_⟩
    have hbefore := length_ofTier_le a.tier before
    rw [List.length_append, List.length_cons] at hword
    rw [runUp_eq_ok hrun, toNat_blocks_of (by omega)]
    omega

/-- Thirteen bytes in two blocks are counted; a third block of four exbibytes off the chain is refused. -/
theorem third_block_refused : ∃ two : List (UInt64 × Access), ∃ third : UInt64 × Access,
    (∃ s, compute two 0 default = .ok s ∧ s.totalSize.toNat = 13 ∧ s.estimatedSize.toNat = 8 ∧ s.totalBlocks.toNat = 2) ∧
      ∃ e, compute (two ++ [third]) 0 default = .error e ∧ e.kind = .outOfRange := by
  let two : List (UInt64 × Access) :=
    [(1, { (default : Access) with size := 5, tier := .hot }), (2, { (default : Access) with size := 8, tier := .archive })]
  let third : UInt64 × Access := (3, { (default : Access) with size := 4611686018427387904, tier := .cold })
  obtain ⟨hfails, -, hexact, -⟩ := compute_exact_or_refused two (by decide) 0 default
  obtain ⟨hfails', hrefused, -, -⟩ := compute_exact_or_refused (two ++ [third]) (by decide) 0 default
  refine ⟨two, third, ?_, ?_⟩
  · cases h : compute two 0 default with
    | error e =>
      have : ¬ Excessive two := by decide
      exact absurd (hfails.1 ⟨e, h⟩) this
    | ok s =>
      have hs := (hexact s h).1
      exact ⟨s, rfl, hs.total, hs.estimated, hs.all.2⟩
  · obtain ⟨e, he⟩ := hfails'.2 (Or.inl ⟨third, by decide, rfl, by decide⟩)
    exact ⟨e, he, (hrefused e he).1⟩

end Statistics

end TieredLedger
