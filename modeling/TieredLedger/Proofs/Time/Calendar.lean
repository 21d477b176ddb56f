import Mathlib.Tactic.IntervalCases
import TieredLedger.Time.Calendar

/-! Day numbers and dates: every day number leads to a date of the calendar, which leads back to it. -/
namespace TieredLedger.Date

private theorem yearOfDay_facts {day : Nat} (h : day < daysInEra) :
    yearOfDay day < 400 ∧ daysBeforeYear (yearOfDay day) ≤ day ∧
      (yearOfDay day < 399 → day < daysBeforeYear (yearOfDay day + 1)) ∧
      day < daysBeforeYear (yearOfDay day) + 366 := by
  rw [daysInEra] at h
  by_cases hlast : day = 146096
  · subst hlast
    decide
  · have hera : day / 146096 = 0 := by omega
    rw [yearOfDay, hera, daysBeforeYear, daysBeforeYear, Nat.sub_zero]
    have hfour := Nat.div_add_mod day 1460
    have hfour' := Nat.mod_lt day (show 0 < 1460 by decide)
    have hcentury := Nat.div_add_mod day 36524
    have hcentury' := Nat.mod_lt day (show 0 < 36524 by decide)
    have hyear := Nat.div_add_mod (day - day / 1460 + day / 36524) 365
    have hyear' := Nat.mod_lt (day - day / 1460 + day / 36524) (show 0 < 365 by decide)
    generalize day / 1460 = g at *
    generalize day / 36524 = c at *
    generalize day % 1460 = g' at *
    generalize day % 36524 = c' at *
    generalize (day - g + c) % 365 = y' at *
    generalize (day - g + c) / 365 = y at *
    have hyc : y / 100 = c := by omega
    have hb : y / 4 ≤ g ∧ g ≤ y / 4 + 1 := by omega
    have hnext : day < 365 * (y + 1) + (y + 1) / 4 - (y + 1) / 100 := by
      by_cases hend : (y + 1) % 100 = 0
      · omega
      · have hsame : (y + 1) / 100 = c := by omega
        have hleap : g ≤ (y + 1) / 4 := by omega
        omega
    rw [hyc]
    omega

private theorem month_facts (day : Nat) (h : day < 366) : (5 * day + 2) / 153 < 12 ∧
    daysBeforeMonth ((5 * day + 2) / 153) ≤ day ∧ day < daysBeforeMonth ((5 * day + 2) / 153 + 1) := by
  rw [daysBeforeMonth, daysBeforeMonth]
  omega

private theorem toDays_eq (era : Int) {year month : Nat} (hyear : year < 400) (hmonth : month < 12) (day : Nat) :
    toDays ⟨if month ≥ 10 then era * 400 + year + 1 else era * 400 + year,
        if month ≥ 10 then month - 9 else month + 3, day⟩ =
      era * daysInEra + (daysBeforeYear year + daysBeforeMonth month + (day - 1) : Nat) - epochOffset := by
  have hdiv : (era * 400 + (year : Int)) / 400 = era := by omega
  have hmod : ((era * 400 + (year : Int)) % 400).toNat = year := by omega
  rw [toDays]
  by_cases hlate : month ≥ 10
  · have hwinter : month - 9 ≤ 2 := by omega
    have hback : month - 9 + 9 = month := by omega
    simp only [if_pos hlate, if_pos hwinter, hback, Int.add_sub_cancel, hdiv, hmod]
  · have hsummer : ¬ month + 3 ≤ 2 := by omega
    simp only [if_neg hlate, if_neg hsummer, Nat.add_sub_cancel, hdiv, hmod]

private theorem dayOfEra_lt (days : Int) : ((days + epochOffset) % daysInEra).toNat < daysInEra := by
  have hnonneg : 0 ≤ (days + epochOffset) % daysInEra := Int.emod_nonneg _ (by decide)
  have hbound : (days + epochOffset) % daysInEra < daysInEra := Int.emod_lt_of_pos _ (by decide)
  omega

/-- A date has the day number that it was made from. -/
theorem toDays_ofDays (days : Int) : (ofDays days).toDays = days := by
  have hera : (((days + epochOffset) % daysInEra).toNat : Int) = (days + epochOffset) % daysInEra :=
    Int.toNat_of_nonneg (Int.emod_nonneg _ (by decide))
  have hsum := Int.mul_ediv_add_emod (days + epochOffset) daysInEra
  obtain ⟨hyear, hfirst, -, hlast⟩ := yearOfDay_facts (dayOfEra_lt days)
  obtain ⟨hmonth, hbefore, -⟩ := month_facts (((days + epochOffset) % daysInEra).toNat -
    daysBeforeYear (yearOfDay ((days + epochOffset) % daysInEra).toNat)) (by omega)
  rw [ofDays, toDays_eq _ hyear hmonth]
  rw [← hera] at hsum
  rw [Int.mul_comm] at hsum
  omega

private theorem isLeapYear_of_long (era : Int) {year : Nat}
    (h : year = 399 ∨ daysBeforeYear year + 365 < daysBeforeYear (year + 1)) :
    isLeapYear (era * 400 + year + 1) = true := by
  rw [daysBeforeYear, daysBeforeYear] at h
  have hfour : (era * 400 + year + 1) % 4 = 0 := by omega
  have hcentury : (era * 400 + year + 1) % 100 ≠ 0 ∨ (era * 400 + year + 1) % 400 = 0 := by omega
  simp only [isLeapYear, Bool.and_eq_true, Bool.or_eq_true, decide_eq_true_eq]
  exact ⟨hfour, hcentury⟩

private theorem day_le_daysInMonth {month day : Nat} {year : Int} (hmonth : month < 12)
    (hbegin : daysBeforeMonth month ≤ day) (hend : day < daysBeforeMonth (month + 1))
    (hlast : day < 365 ∨ day = 365 ∧ isLeapYear year = true) :
    day - daysBeforeMonth month + 1 ≤ daysInMonth year (if month ≥ 10 then month - 9 else month + 3) := by
  by_cases hfebruary : month = 11
  · subst hfebruary
    have hbefore : daysBeforeMonth 11 = 337 := by decide
    rcases hlast with hlast | ⟨rfl, hleap⟩
    · have hlong : 28 ≤ daysInMonth year 2 := by
        rw [daysInMonth, if_pos rfl]
        split <;> omega
      rw [hbefore]
      exact Nat.le_trans (by omega) hlong
    · rw [hbefore, if_pos (by decide), daysInMonth, if_pos rfl, if_pos hleap]
  · have hlong : daysBeforeMonth (month + 1) - daysBeforeMonth month ≤
        daysInMonth year (if month ≥ 10 then month - 9 else month + 3) := by
      interval_cases month <;> first | (simp [daysBeforeMonth, daysInMonth]; done) | exact absurd rfl hfebruary
    omega

/-- The calendar has every date that a day number leads to. -/
theorem isValid_ofDays (days : Int) : (ofDays days).isValid = true := by
  obtain ⟨hyear, hfirst, hnext, hlast⟩ := yearOfDay_facts (dayOfEra_lt days)
  rw [ofDays]
  generalize ((days + epochOffset) % daysInEra).toNat = day at *
  generalize yearOfDay day = year at *
  generalize hera : (days + epochOffset) / daysInEra = era
  obtain ⟨hmonth, hbegin, hend⟩ := month_facts (day - daysBeforeYear year) (by omega)
  generalize hdoy : day - daysBeforeYear year = dayOfYear at *
  generalize (5 * dayOfYear + 2) / 153 = month at *
  have hlong : dayOfYear < 365 ∨ dayOfYear = 365 ∧
      isLeapYear (if month ≥ 10 then era * 400 + year + 1 else era * 400 + year) = true := by
    by_cases hshort : dayOfYear < 365
    · exact Or.inl hshort
    · right
      have hwinter : month ≥ 10 := by
        rw [daysBeforeMonth] at hend
        omega
      rw [if_pos hwinter]
      exact ⟨by omega, isLeapYear_of_long era (by omega)⟩
  have hday := day_le_daysInMonth hmonth hbegin hend hlong
  rw [isValid]
  simp only [Bool.and_eq_true, decide_eq_true_eq]
  refine ⟨⟨⟨?_, ?_⟩, ?_⟩, hday⟩
  · split <;> omega
  · split <;> omega
  · omega

end TieredLedger.Date
