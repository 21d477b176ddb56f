import TieredLedger.Proofs.Text.Number
import TieredLedger.Proofs.Time.Calendar
import TieredLedger.Time.Timestamp

/-! The text of an instant is read back to the nanosecond, in leap seconds and beyond the year 9999 too. Only a leap second
amid a minute is read as the second after it, which has the same text. -/
namespace TieredLedger

namespace Instant

def LeapEndsMinute (t : Instant) : Prop := nanosPerSecond ≤ t.nanos → t.seconds % 60 = 59

instance (t : Instant) : Decidable t.LeapEndsMinute :=
  inferInstanceAs (Decidable (nanosPerSecond ≤ t.nanos → t.seconds % 60 = 59))

/-- The instant that the text of an instant stands for: a leap second amid a minute is the second after it. -/
def settled (t : Instant) : Instant :=
  if h : nanosPerSecond ≤ t.nanos ∧ t.seconds % 60 ≠ 59 then
    { seconds := t.seconds + 1
      nanos := t.nanos - nanosPerSecond
      first_le := t.first_le.trans (Int.le_add_one (Int.le_refl _))
      lt_last := by
        have hlast := t.lt_last
        rw [secondsPerDay] at hlast ⊢
        generalize Date.toDays ⟨262143, 1, 1⟩ = day at hlast ⊢
        omega
      nanos_lt := (Nat.sub_le _ _).trans_lt t.nanos_lt }
  else t

variable {t : Instant}

private theorem leapEndsMinute_settled (t : Instant) : t.settled.LeapEndsMinute := by
  rw [LeapEndsMinute, settled]
  split
  · intro hleap
    have hnanos := t.nanos_lt
    dsimp only at hleap
    rw [nanosPerSecond] at hleap hnanos
    omega
  · next h =>
    intro hleap
    exact Decidable.of_not_not fun hne => h ⟨hleap, hne⟩

/-- An instant stands for itself in text exactly if a leap second follows the last second of a minute. -/
theorem settled_eq_self_iff : t.settled = t ↔ t.LeapEndsMinute := by
  constructor
  · intro h
    rw [← h]
    exact t.leapEndsMinute_settled
  · intro h
    rw [settled, dif_neg]
    exact fun hstray => hstray.2 (h hstray.1)

end Instant

namespace Timestamp

open Text (NoDigitNext)

variable {width n : Nat} {ds rest : List Char} {t : Instant}

private theorem toList_padded (width n : Nat) : (padded width n).toList =
    List.replicate (width - (Nat.toDigits 10 n).length) '0' ++ Nat.toDigits 10 n := by
  rw [padded, Nat.toString_eq_ofList_toDigits, String.toList_append, String.toList_ofList, String.toList_ofList,
    String.length_ofList]

private theorem isDigit_of_mem_padded {c : Char} (h : c ∈ (padded width n).toList) : c.isDigit = true := by
  rw [toList_padded, List.mem_append] at h
  rcases h with h | h
  · rw [(List.mem_replicate.1 h).2]
    rfl
  · exact Text.isDigit_of_mem_toDigits h

private theorem ofDigits_padded (width n : Nat) : Text.ofDigits (padded width n).toList = n := by
  rw [toList_padded, Text.ofDigits_zeros_append, Text.ofDigits_toDigits]

private theorem length_padded (hwidth : 0 < width) (h : n < 10 ^ width) : (padded width n).toList.length = width := by
  have hlength := (Nat.length_toDigits_le_iff (b := 10) (n := n) (by decide) hwidth).2 h
  rw [toList_padded, List.length_append, List.length_replicate]
  omega

private theorem padded_ne_nil (width n : Nat) : (padded width n).toList ≠ [] := by
  rw [toList_padded]
  exact List.append_ne_nil_of_right_ne_nil _ Nat.toDigits_ne_nil

private theorem isBlank_of_isDigit {c : Char} (h : c.isDigit = true) : Text.isBlank c = false := by
  have hrange : 48 ≤ c.toNat ∧ c.toNat ≤ 57 := by simpa [Char.isDigit, UInt32.le_iff_toNat_le] using h
  simp [Text.isBlank, Text.inRanges, Text.blankRanges]
  omega

private theorem trimFront_cons {c : Char} (h : Text.isBlank c = false) : Text.trimFront (c :: rest) = c :: rest := by
  rw [Text.trimFront, List.dropWhile_cons_of_neg (by rw [h]; exact Bool.false_ne_true)]

private theorem trimFront_digits (hne : ds ≠ []) (hds : ∀ c ∈ ds, c.isDigit = true) :
    Text.trimFront (ds ++ rest) = ds ++ rest := by
  cases ds with
  | nil => exact absurd rfl hne
  | cons c ds => exact trimFront_cons (isBlank_of_isDigit (hds c List.mem_cons_self))

private theorem digits_append (hne : ds ≠ []) (hds : ∀ c ∈ ds, c.isDigit = true) (hlength : ds.length ≤ width)
    (hend : ds.length = width ∨ NoDigitNext rest) : digits width (ds ++ rest) = some (Text.ofDigits ds, rest) := by
  have hnext : NoDigitNext (rest.take (width - ds.length)) := by
    rcases hend with hend | hend
    · rw [hend, Nat.sub_self, List.take_zero]
      exact Text.noDigitNext_nil
    · intro c hc
      rw [List.head?_take] at hc
      split at hc
      · cases hc
      · exact hend c hc
  rw [digits, List.take_append, List.take_of_length_le hlength, Text.takeWhile_isDigit_append hds hnext]
  simp [hne]

private theorem mark_cons {c : Char} (h : Text.isBlank c = false) : mark c (c :: rest) = some rest := by
  rw [mark, trimFront_cons h]
  exact if_pos rfl

private theorem field_padded {low high : Nat} (hlow : low ≤ n) (hhigh : n ≤ high) (h : high < 100) :
    field low high ((padded 2 n).toList ++ rest) = some (n, rest) := by
  have hlength : (padded 2 n).toList.length = 2 := length_padded (by decide) (by omega)
  have hdigits : ∀ c ∈ (padded 2 n).toList, c.isDigit = true := fun c hc => isDigit_of_mem_padded hc
  rw [field, trimFront_digits (padded_ne_nil 2 n) hdigits,
    digits_append (padded_ne_nil 2 n) hdigits hlength.le (Or.inl hlength), ofDigits_padded]
  simp [hlow, hhigh]

private theorem year_digits (hne : ds ≠ []) (hds : ∀ c ∈ ds, c.isDigit = true) (hlength : ds.length = 4) :
    year (ds ++ rest) = some (Int.ofNat (Text.ofDigits ds), rest) := by
  rw [year, trimFront_digits hne hds]
  split
  · next heq =>
    have hsign := hds '+' (List.mem_of_mem_head? (by rw [← List.head?_append_of_ne_nil ds hne, heq]; rfl))
    cases hsign
  · next heq =>
    have hsign := hds '-' (List.mem_of_mem_head? (by rw [← List.head?_append_of_ne_nil ds hne, heq]; rfl))
    cases hsign
  · rw [digits_append hne hds hlength.le (Or.inl hlength)]
    rfl

private theorem year_plus (cs : List Char) :
    year ('+' :: cs) = (digits cs.length cs).map fun (n, cs) => (Int.ofNat n, cs) := by
  rw [year, trimFront_cons (by decide)]
  rfl

private theorem year_minus (cs : List Char) :
    year ('-' :: cs) = (digits cs.length cs).map fun (n, cs) => (-Int.ofNat n, cs) := by
  rw [year, trimFront_cons (by decide)]
  rfl

private theorem year_yearText (y : Int) (hrest : NoDigitNext rest) :
    year ((yearText y).toList ++ rest) = some (y, rest) := by
  have hdigits : ∀ n, ∀ c ∈ (padded 4 n).toList, c.isDigit = true := fun n c hc => isDigit_of_mem_padded hc
  have hsigned : ∀ n, digits ((padded 4 n).toList ++ rest).length ((padded 4 n).toList ++ rest) = some (n, rest) := by
    intro n
    rw [digits_append (padded_ne_nil 4 n) (hdigits n) (by rw [List.length_append]; exact Nat.le_add_right _ _)
      (Or.inr hrest), ofDigits_padded]
  rw [yearText]
  by_cases hplain : 0 ≤ y ∧ y ≤ 9999
  · rw [if_pos hplain, year_digits (padded_ne_nil 4 y.toNat) (hdigits y.toNat)
      (length_padded (by decide) (by omega)), ofDigits_padded]
    exact congrArg (fun z => some (z, rest)) (Int.toNat_of_nonneg hplain.1)
  · rw [if_neg hplain, String.toList_append]
    by_cases hnegative : y < 0
    · have hsign : ("-" : String).toList = ['-'] := by decide
      have hvalue : -Int.ofNat y.natAbs = y := by
        change -(y.natAbs : Int) = y
        omega
      rw [if_pos hnegative, hsign, List.append_assoc, List.singleton_append, year_minus, hsigned, Option.map_some]
      exact congrArg (fun z => some (z, rest)) hvalue
    · have hsign : ("+" : String).toList = ['+'] := by decide
      have hvalue : Int.ofNat y.natAbs = y := by
        change (y.natAbs : Int) = y
        omega
      rw [if_neg hnegative, hsign, List.append_assoc, List.singleton_append, year_plus, hsigned, Option.map_some]
      exact congrArg (fun z => some (z, rest)) hvalue

private theorem fraction_padded (hwidth : 0 < width) (hle : width ≤ 9) (h : n < 10 ^ width)
    (hrest : NoDigitNext rest) :
    fraction ('.' :: ((padded width n).toList ++ rest)) = some (n * 10 ^ (9 - width), rest) := by
  have hlength := length_padded hwidth h
  have hkept : (padded width n).toList.take 9 = (padded width n).toList := List.take_of_length_le (by omega)
  rw [fraction, Text.takeWhile_isDigit_append (fun c hc => isDigit_of_mem_padded hc) hrest]
  simp only [List.isEmpty_eq_false_iff.2 (padded_ne_nil width n), hkept, ofDigits_padded, hlength,
    List.drop_left' hlength]
  rfl

private theorem fraction_fractionText (h : n < nanosPerSecond) (hrest : NoDigitNext rest)
    (hpoint : rest.head? ≠ some '.') : fraction ((fractionText n).toList ++ rest) = some (n, rest) := by
  have hsign : ("." : String).toList = ['.'] := by decide
  rw [nanosPerSecond] at h
  rw [fractionText]
  by_cases hzero : n = 0
  · subst hzero
    rw [if_pos rfl, String.toList_empty, List.nil_append]
    unfold fraction
    split
    · exact absurd rfl hpoint
    · rfl
  rw [if_neg hzero]
  by_cases hmilli : n % 1000000 = 0
  · rw [if_pos hmilli, String.toList_append, hsign, List.append_assoc, List.singleton_append,
      fraction_padded (by decide) (by decide) (by omega) hrest]
    have hvalue : n / 1000000 * 10 ^ (9 - 3) = n := by omega
    rw [hvalue]
  rw [if_neg hmilli]
  by_cases hmicro : n % 1000 = 0
  · rw [if_pos hmicro, String.toList_append, hsign, List.append_assoc, List.singleton_append,
      fraction_padded (by decide) (by decide) (by omega) hrest]
    have hvalue : n / 1000 * 10 ^ (9 - 6) = n := by omega
    rw [hvalue]
  · rw [if_neg hmicro, String.toList_append, hsign, List.append_assoc, List.singleton_append,
      fraction_padded (by decide) (by decide) (by omega) hrest, Nat.sub_self, Nat.pow_zero, Nat.mul_one]

private theorem second_facts (h : t.LeapEndsMinute) :
    t.secondOfDay.toNat % 60 + t.nanos / nanosPerSecond ≤ 60 ∧
      (if t.secondOfDay.toNat % 60 + t.nanos / nanosPerSecond = 60 then 1 else 0) = t.nanos / nanosPerSecond := by
  have hnanos := t.nanos_lt
  have hday : (t.secondOfDay.toNat : Int) = t.seconds % 86400 :=
    Int.toNat_of_nonneg (Int.emod_nonneg _ (by decide))
  rw [Instant.LeapEndsMinute] at h
  rw [nanosPerSecond] at *
  split <;> omega

private theorem ofParts?_eq (h : t.LeapEndsMinute) {seconds : Int} {nanos : Nat} (hseconds : seconds = t.seconds)
    (hnanos : nanos = t.nanos) : Instant.ofParts? seconds nanos = some t := by
  subst hseconds hnanos
  rw [Instant.ofParts?, dif_pos ⟨t.first_le, t.lt_last, t.nanos_lt, h⟩]

private theorem assemble_parts (h : t.LeapEndsMinute) : assemble (Date.ofDays (t.seconds / secondsPerDay))
    (t.secondOfDay.toNat / 3600) (t.secondOfDay.toNat / 60 % 60)
    (t.secondOfDay.toNat % 60 + t.nanos / nanosPerSecond) (t.nanos % nanosPerSecond) 0 = some t := by
  obtain ⟨-, hleap⟩ := second_facts h
  have hday : (t.secondOfDay.toNat : Int) = t.seconds % 86400 :=
    Int.toNat_of_nonneg (Int.emod_nonneg _ (by decide))
  have hseconds : (Date.ofDays (t.seconds / secondsPerDay)).toDays * secondsPerDay +
      ((t.secondOfDay.toNat / 3600 : Nat) * 3600 + (t.secondOfDay.toNat / 60 % 60 : Nat) * 60 +
        ((t.secondOfDay.toNat % 60 + t.nanos / nanosPerSecond : Nat) - (t.nanos / nanosPerSecond : Nat))) = t.seconds := by
    rw [Date.toDays_ofDays, secondsPerDay]
    omega
  have hnanos : t.nanos % nanosPerSecond + t.nanos / nanosPerSecond * nanosPerSecond = t.nanos := by
    rw [Nat.mul_comm]
    exact Nat.mod_add_div _ _
  have hvalid : ¬ ((!(Date.ofDays (t.seconds / secondsPerDay)).isValid) = true ∨ Int.natAbs 0 ≥ secondsPerDay) := by
    rw [Date.isValid_ofDays]
    decide
  rw [assemble, hleap, if_neg hvalid]
  dsimp only
  rw [ofParts?_eq h hseconds hnanos, Int.sub_zero, ofParts?_eq h hseconds hnanos]
  rfl

private theorem readDate_ofDays (days : Int) :
    readDate ((yearText (Date.ofDays days).year).toList ++ '-' :: ((padded 2 (Date.ofDays days).month).toList ++
      '-' :: ((padded 2 (Date.ofDays days).day).toList ++ rest))) = some (Date.ofDays days, rest) := by
  have hvalid := Date.isValid_ofDays days
  simp only [Date.isValid, Bool.and_eq_true, decide_eq_true_eq] at hvalid
  obtain ⟨⟨⟨hmonth, hmonths⟩, hday⟩, hdays⟩ := hvalid
  have hlong : (Date.ofDays days).day ≤ 31 := by
    refine hdays.trans ?_
    rw [Date.daysInMonth]
    split
    · split <;> decide
    · split <;> decide
  rw [readDate, year_yearText _ (Text.noDigitNext_cons (by decide))]
  simp only [Option.bind_eq_bind, Option.bind_some, mark_cons (show Text.isBlank '-' = false by decide),
    field_padded hmonth hmonths (by decide), field_padded hday hlong (by decide)]
  rfl

private theorem read?_text_of_leapEndsMinute (h : t.LeapEndsMinute) : read? (text t) = some t := by
  obtain ⟨hsecond, -⟩ := second_facts h
  have hlist : (text t).toList = (yearText (Date.ofDays (t.seconds / secondsPerDay)).year).toList ++
      '-' :: ((padded 2 (Date.ofDays (t.seconds / secondsPerDay)).month).toList ++
      '-' :: ((padded 2 (Date.ofDays (t.seconds / secondsPerDay)).day).toList ++
      'T' :: ((padded 2 (t.secondOfDay.toNat / 3600)).toList ++
      ':' :: ((padded 2 (t.secondOfDay.toNat / 60 % 60)).toList ++
      ':' :: ((padded 2 (t.secondOfDay.toNat % 60 + t.nanos / nanosPerSecond)).toList ++
        ((fractionText (t.nanos % nanosPerSecond)).toList ++ ['Z'])))))) := by
    simp [text]
  have hhour : t.secondOfDay.toNat / 3600 ≤ 23 := by
    have hday : t.secondOfDay < 86400 := Int.emod_lt_of_pos _ (by decide)
    omega
  have hminute : t.secondOfDay.toNat / 60 % 60 ≤ 59 := by omega
  rw [read?, hlist, readChars, readDate_ofDays]
  simp only [Option.bind_eq_bind, Option.bind_some, passSeparator, mark_cons (show Text.isBlank ':' = false by decide),
    field_padded (Nat.zero_le _) hhour (by decide), field_padded (Nat.zero_le _) hminute (by decide),
    field_padded (Nat.zero_le _) hsecond (by decide),
    fraction_fractionText (Nat.mod_lt _ (by decide)) (Text.noDigitNext_cons (show Char.isDigit 'Z' = false by decide))
      (show ['Z'].head? ≠ some '.' by decide)]
  have hend : Text.trimFront ['Z'] = ['Z'] := trimFront_cons (by decide)
  rw [hend]
  exact assemble_parts h

/-- A leap second amid a minute is written as the second after it is. -/
theorem text_settled (t : Instant) : text t.settled = text t := by
  rw [Instant.settled]
  split
  · next h =>
    obtain ⟨hleap, hmid⟩ := h
    have hnanos := t.nanos_lt
    rw [nanosPerSecond] at hleap hnanos
    have hdays : (t.seconds + 1) / secondsPerDay = t.seconds / secondsPerDay := by
      rw [secondsPerDay]
      omega
    have hsecond : ((t.seconds + 1) % secondsPerDay).toNat = t.secondOfDay.toNat + 1 := by
      rw [Instant.secondOfDay, secondsPerDay]
      omega
    have hmid' : t.secondOfDay.toNat % 60 ≠ 59 := by
      rw [Instant.secondOfDay, secondsPerDay]
      omega
    have hcarry : t.nanos / nanosPerSecond = 1 ∧ (t.nanos - nanosPerSecond) / nanosPerSecond = 0 ∧
        (t.nanos - nanosPerSecond) % nanosPerSecond = t.nanos % nanosPerSecond := by
      rw [nanosPerSecond]
      omega
    have hclock : (t.secondOfDay.toNat + 1) / 3600 = t.secondOfDay.toNat / 3600 ∧
        (t.secondOfDay.toNat + 1) / 60 % 60 = t.secondOfDay.toNat / 60 % 60 ∧
        (t.secondOfDay.toNat + 1) % 60 = t.secondOfDay.toNat % 60 + 1 := by
      omega
    rw [text, text, hcarry.1]
    dsimp only
    rw [Instant.secondOfDay, hdays, hsecond, hclock.1, hclock.2.1, hclock.2.2, hcarry.2.1, hcarry.2.2]
  · rfl

/-- The text of an instant is read back into the instant that it stands for. -/
theorem read?_text (t : Instant) : read? (text t) = some t.settled := by
  rw [← text_settled, read?_text_of_leapEndsMinute t.leapEndsMinute_settled]

end Timestamp

end TieredLedger
