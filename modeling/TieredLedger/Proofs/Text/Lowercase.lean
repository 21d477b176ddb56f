import Mathlib.Data.Bool.AllAny
import TieredLedger.Text.Lowercase

/-! Lower-casing a text once is enough: its characters are settled afterwards, and none of them became white space. Words
of ASCII letters are the lower-case forms of their ASCII spellings only, as long as they have no `k` in them. -/
namespace TieredLedger.Text

namespace CaseRun

/-- Whether a run holds a code point. -/
def Holds (r : CaseRun) (n : Nat) : Prop := r.first ≤ n ∧ n ≤ r.last ∧ (n - r.first) % r.step = 0

/-- A test for runs whose lower-case forms lie outside another run: beside it, or between its members. -/
def avoids (r s : CaseRun) : Bool :=
  Nat.blt (r.target + (r.last - r.first)) s.first || Nat.blt s.last r.target ||
    (s.step == 2 && (r.step == 2 || r.first == r.last) && (r.target + s.first) % 2 == 1)

def clears (r : CaseRun) (range : Nat × Nat) : Bool :=
  Nat.blt (r.target + (r.last - r.first)) range.1 || Nat.blt range.2 r.target

private theorem not_holds_of_avoids {r s : CaseRun} {n : Nat} (h : r.avoids s = true) (hn : r.Holds n) :
    ¬ s.Holds (r.target + (n - r.first)) := by
  obtain ⟨hl, hu, hm⟩ := hn
  rintro ⟨sl, su, sm⟩
  simp only [avoids, Bool.or_eq_true, Bool.and_eq_true, Nat.blt_eq, beq_iff_eq] at h
  rcases h with (h | h) | ⟨⟨hs, hr⟩, hp⟩
  · omega
  · omega
  · rw [hs] at sm
    rcases hr with hr | hr
    · rw [hr] at hm
      omega
    · omega

private theorem not_inRange_of_clears {r : CaseRun} {n low high : Nat} (h : r.clears (low, high) = true)
    (hn : r.Holds n) :
    ¬ (low ≤ r.target + (n - r.first) ∧ r.target + (n - r.first) ≤ high) := by
  obtain ⟨hl, hu, _⟩ := hn
  simp only [clears, Bool.or_eq_true, Nat.blt_eq] at h
  omega

end CaseRun

/-- No lower-case form is itself in a run. -/
theorem caseRuns_avoid : (caseRuns.all fun r => caseRuns.all r.avoids) = true := by decide +kernel

/-- What no lower-case form in the table is: the capital I with a dot, a surrogate, or white space. -/
def barredRanges : List (Nat × Nat) := (0x130, 0x130) :: (0xD800, 0xDFFF) :: blankRanges

private theorem caseRuns_clear : (caseRuns.all fun r => barredRanges.all r.clears) = true := by decide +kernel

/-- No lower-case form lies beyond the last code point. -/
theorem caseRuns_bounded : (caseRuns.all fun r => Nat.blt (r.target + (r.last - r.first)) 0x110000) = true := by
  decide +kernel

private theorem lowerCode_of_not_holds {n : Nat} {runs : List CaseRun} (h : ∀ r ∈ runs, ¬ r.Holds n) :
    lowerCode n runs = n := by
  induction runs with
  | nil => rfl
  | cons r runs ih =>
    have hr : lowerCode n (r :: runs) = lowerCode n runs := if_neg (h r List.mem_cons_self)
    rw [hr]
    exact ih fun s hs => h s (List.mem_cons_of_mem r hs)

private theorem lowerCode_of_holds {n : Nat} {runs : List CaseRun} (h : ∃ r ∈ runs, r.Holds n) :
    ∃ r ∈ runs, r.Holds n ∧ lowerCode n runs = r.target + (n - r.first) := by
  induction runs with
  | nil => simp at h
  | cons r runs ih =>
    by_cases hr : r.Holds n
    · exact ⟨r, List.mem_cons_self, hr, if_pos hr⟩
    · obtain ⟨s, hs, hn⟩ := h
      rcases List.mem_cons.1 hs with rfl | hs
      · exact absurd hn hr
      · obtain ⟨t, ht, hholds, he⟩ := ih ⟨s, hs, hn⟩
        exact ⟨t, List.mem_cons_of_mem r ht, hholds, (if_neg hr).trans he⟩

def Settled (c : Char) : Prop := c ≠ 'Σ' ∧ lowerChar c = [c]

instance (c : Char) : Decidable (Settled c) := inferInstanceAs (Decidable (_ ∧ _))

private theorem target_facts {r : CaseRun} {n : Nat} (hr : r ∈ caseRuns) (hn : r.Holds n) :
    let m := r.target + (n - r.first)
    m.isValidChar ∧ (∀ s ∈ caseRuns, ¬ s.Holds m) ∧ m ≠ 0x130 ∧ inRanges blankRanges m = false := by
  have havoid := List.all_eq_true.1 caseRuns_avoid r hr
  have hclear := List.all_eq_true.1 (List.all_eq_true.1 caseRuns_clear r hr)
  have hbound := List.all_eq_true.1 caseRuns_bounded r hr
  have hdotted := CaseRun.not_inRange_of_clears (hclear (0x130, 0x130) (by simp [barredRanges])) hn
  have hsurrogate := CaseRun.not_inRange_of_clears (hclear (0xD800, 0xDFFF) (by simp [barredRanges])) hn
  refine ⟨?_, ?_, ?_, ?_⟩
  · obtain ⟨hl, hu, _⟩ := hn
    rw [Nat.blt_eq] at hbound
    have : r.target + (n - r.first) < 0xD800 ∨ 0xDFFF < r.target + (n - r.first) := by omega
    rcases this with h | h
    · exact Or.inl h
    · exact Or.inr ⟨h, by omega⟩
  · exact fun s hs => CaseRun.not_holds_of_avoids (List.all_eq_true.1 havoid s hs) hn
  · omega
  · rw [inRanges, List.any_eq_false]
    rintro ⟨low, high⟩ hrange
    have := CaseRun.not_inRange_of_clears (hclear (low, high) (by simp [barredRanges, hrange])) hn
    simpa using this

private theorem ascii_facts : ∀ n < 128,
    Settled (Char.ofNat n).toLower ∧ (isBlank (Char.ofNat n).toLower = true → isBlank (Char.ofNat n) = true) := by
  decide

private theorem lowerChar_of_not_holds {c : Char} (hi : c ≠ '\u0130') (h : ∀ r ∈ caseRuns, ¬ r.Holds c.toNat) :
    lowerChar c = [c] := by
  rw [lowerChar, if_neg hi, lowerCode_of_not_holds h, Char.ofNat_toNat]
  split
  · have hc : ¬ (c.val ≥ 'A'.val ∧ c.val ≤ 'Z'.val) :=
      fun hc => h ⟨0x41, 0x5A, 1, 0x61⟩ (.head _) ⟨hc.1, hc.2, Nat.mod_one _⟩
    have hsame : c.toLower = c := dif_neg hc
    rw [hsame]
  · rfl

private theorem settled_of_not_holds {c : Char} (hi : c ≠ '\u0130') (h : ∀ r ∈ caseRuns, ¬ r.Holds c.toNat) :
    Settled c := by
  refine ⟨?_, lowerChar_of_not_holds hi h⟩
  rintro rfl
  exact absurd (lowerCode_of_not_holds h) (by decide)

/-- Every character of a lower-case form is settled, and is white space only if it was so before. -/
theorem lowerChar_facts (c : Char) : ∀ d ∈ lowerChar c, Settled d ∧ (isBlank d = true → isBlank c = true) := by
  intro d hd
  by_cases hascii : c.toNat < 128
  · rw [lowerChar, if_pos hascii, List.mem_singleton] at hd
    subst hd
    simpa only [Char.ofNat_toNat] using ascii_facts c.toNat hascii
  by_cases hi : c = '\u0130'
  · subst hi
    revert d
    exact List.all_iff_forall_prop.1 (by decide)
  by_cases hr : ∃ r ∈ caseRuns, r.Holds c.toNat
  · obtain ⟨r, hmem, hn, he⟩ := lowerCode_of_holds hr
    obtain ⟨hvalid, hout, hdotted, hblank⟩ := target_facts hmem hn
    rw [lowerChar, if_neg hascii, if_neg hi, he, List.mem_singleton] at hd
    have hcode : d.toNat = r.target + (c.toNat - r.first) := by
      rw [hd, Char.ofNat, dif_pos hvalid]
      rfl
    rw [← hcode] at hout hdotted hblank
    refine ⟨settled_of_not_holds ?_ hout, ?_⟩
    · rintro rfl
      exact hdotted rfl
    · intro hd
      exact absurd (hd.symm.trans hblank) (by decide)
  · have hout : ∀ r ∈ caseRuns, ¬ r.Holds c.toNat := fun r hr' hn => hr ⟨r, hr', hn⟩
    rw [lowerChar_of_not_holds hi hout, List.mem_singleton] at hd
    subst hd
    exact ⟨settled_of_not_holds hi hout, id⟩

theorem lowerChar_ne_nil (c : Char) : lowerChar c ≠ [] := by
  rw [lowerChar]
  split
  · simp
  · split <;> simp

/-- Either form of the sigma stays as it is, and is not blank. -/
theorem lowerSigma_facts (before after : List Char) :
    Settled (lowerSigma before after) ∧ isBlank (lowerSigma before after) = false := by
  rw [lowerSigma]
  split <;> decide

private theorem lowerFrom_facts (before cs : List Char) :
    ∀ d ∈ lowerFrom before cs, Settled d ∧ (isBlank d = true → ∃ c ∈ cs, isBlank c = true) := by
  induction cs generalizing before with
  | nil => simp [lowerFrom]
  | cons c rest ih =>
    intro d hd
    rw [lowerFrom, List.mem_append] at hd
    rcases hd with hd | hd
    · split at hd
      · rw [List.mem_singleton] at hd
        obtain ⟨hs, hb⟩ := lowerSigma_facts before rest
        subst hd
        exact ⟨hs, fun h => absurd (h.symm.trans hb) (by decide)⟩
      · obtain ⟨hs, hb⟩ := lowerChar_facts c d hd
        exact ⟨hs, fun h => ⟨c, List.mem_cons_self, hb h⟩⟩
    · obtain ⟨hs, hb⟩ := ih (c :: before) d hd
      refine ⟨hs, fun h => ?_⟩
      obtain ⟨e, he, hblank⟩ := hb h
      exact ⟨e, List.mem_cons_of_mem c he, hblank⟩

private theorem lowerFrom_of_settled {before cs : List Char} (h : ∀ c ∈ cs, Settled c) : lowerFrom before cs = cs := by
  induction cs generalizing before with
  | nil => rfl
  | cons c rest ih =>
    obtain ⟨hc, hl⟩ := h c List.mem_cons_self
    rw [lowerFrom, if_neg hc, hl, ih fun d hd => h d (List.mem_cons_of_mem c hd)]
    rfl

/-- Lower-casing a second time changes nothing. -/
theorem lowercase_lowercase (s : String) : lowercase (lowercase s) = lowercase s := by
  rw [lowercase, lowercase, String.toList_ofList, lowered, lowered]
  rw [lowerFrom_of_settled fun d hd => (lowerFrom_facts [] s.toList d hd).1]

section Ascii

/-- A text is a word in ASCII letters of any case. -/
def ReadsAs (s word : String) : Prop := s.toList.map Char.toLower = word.toList

instance (s word : String) : Decidable (ReadsAs s word) := inferInstanceAs (Decidable (_ = _))

/-- A word that is the lower-case form of texts in ASCII only: it has no `k`, which is that of the Kelvin sign too. -/
def IsAsciiOnly (word : String) : Prop := ∀ d ∈ word.toList, d.toNat < 128 ∧ d ≠ 'k'

instance (word : String) : Decidable (IsAsciiOnly word) := List.decidableBAll _ word.toList

/-- No run leads into ASCII from beyond it, but for that of the Kelvin sign. -/
theorem caseRuns_keep_out : (caseRuns.all fun r =>
    Nat.blt r.last 128 || Nat.ble 128 r.target || (r.first == r.last && r.target == 0x6B)) = true := by
  decide +kernel

private theorem exists_not_ascii {c : Char} (hc : ¬ c.toNat < 128) : ∃ d ∈ lowerChar c, d = 'k' ∨ ¬ d.toNat < 128 := by
  by_cases hi : c = '\u0130'
  · subst hi
    exact ⟨'\u0307', by decide, by decide⟩
  by_cases hr : ∃ r ∈ caseRuns, r.Holds c.toNat
  · obtain ⟨r, hmem, hn, he⟩ := lowerCode_of_holds hr
    have hvalid := (target_facts hmem hn).1
    refine ⟨Char.ofNat (r.target + (c.toNat - r.first)), ?_, ?_⟩
    · rw [lowerChar, if_neg hc, if_neg hi, he, List.mem_singleton]
    · have hkeep := List.all_eq_true.1 caseRuns_keep_out r hmem
      simp only [Bool.or_eq_true, Bool.and_eq_true, Nat.blt_eq, Nat.ble_eq, beq_iff_eq] at hkeep
      obtain ⟨hl, hu, -⟩ := hn
      rcases hkeep with (hkeep | hkeep) | ⟨hsingle, htarget⟩
      · omega
      · rw [Char.ofNat, dif_pos hvalid]
        exact Or.inr (Nat.not_lt.2 (Nat.le_trans hkeep (Nat.le_add_right _ _)))
      · have hfirst : c.toNat - r.first = 0 := by omega
        rw [hfirst, htarget]
        exact Or.inl rfl
  · refine ⟨c, ?_, Or.inr hc⟩
    rw [lowerChar_of_not_holds hi fun r hr' hn => hr ⟨r, hr', hn⟩]
    exact List.mem_singleton_self c

private theorem toNat_lt_of_toLower {c : Char} (h : c.toLower.toNat < 128) : c.toNat < 128 := by
  by_cases hcapital : c.val ≥ 'A'.val ∧ c.val ≤ 'Z'.val
  · exact Nat.lt_of_le_of_lt hcapital.2 (by decide)
  · have hsame : c.toLower = c := dif_neg hcapital
    rwa [hsame] at h

private theorem lowerFrom_eq_iff {word cs before : List Char} (hword : ∀ d ∈ word, d.toNat < 128 ∧ d ≠ 'k') :
    lowerFrom before cs = word ↔ cs.map Char.toLower = word := by
  have hsigma : ¬ ('Σ' : Char).toNat < 128 := by decide
  induction cs generalizing before word with
  | nil => rw [lowerFrom, List.map_nil]
  | cons c rest ih =>
    by_cases hc : c.toNat < 128
    · have hne : c ≠ 'Σ' := by
        rintro rfl
        exact hsigma hc
      rw [lowerFrom, if_neg hne, lowerChar, if_pos hc, List.map_cons, List.singleton_append]
      cases word with
      | nil => simp
      | cons d word =>
        rw [List.cons_eq_cons, List.cons_eq_cons]
        exact and_congr_right' (ih fun e he => hword e (List.mem_cons_of_mem d he))
    · constructor
      · intro h
        exfalso
        rw [lowerFrom] at h
        subst h
        split at hword
        · have hlower := hword (lowerSigma before rest) (by simp)
          rw [lowerSigma] at hlower
          split at hlower <;> exact absurd hlower.1 (by decide)
        · obtain ⟨d, hd, hnot⟩ := exists_not_ascii hc
          obtain ⟨hascii, hk⟩ := hword d (List.mem_append_left _ hd)
          exact hnot.elim hk fun h => h hascii
      · rintro rfl
        exact absurd (toNat_lt_of_toLower (hword c.toLower (by simp)).1) hc

/-- A word that is the lower-case form of texts in ASCII only is that of its spellings in letters of any case. -/
theorem lowercase_eq_iff {s word : String} (hword : IsAsciiOnly word) :
    lowercase s = word ↔ ReadsAs s word := by
  rw [lowercase, ReadsAs, lowered, ← lowerFrom_eq_iff hword, ← String.toList_inj, String.toList_ofList]

end Ascii

end TieredLedger.Text
