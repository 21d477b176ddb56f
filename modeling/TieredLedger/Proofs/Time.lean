import TieredLedger.Time.Instant

/-! The order of instants, and how it goes together with the time that has passed since an instant. -/
namespace TieredLedger.Instant

variable {a b c t : Instant}

private theorem before_iff : a.before b = true ↔ a.seconds < b.seconds ∨ a.seconds = b.seconds ∧ a.nanos < b.nanos := by
  simp [before]

private theorem not_before_iff :
    a.before b = false ↔ b.seconds < a.seconds ∨ a.seconds = b.seconds ∧ b.nanos ≤ a.nanos := by
  rw [← Bool.not_eq_true, before_iff]
  omega

private theorem not_before_trans (hab : a.before b = false) (hbc : b.before c = false) : a.before c = false := by
  rw [not_before_iff] at hab hbc ⊢
  omega

/-- The later of two instants is one of them, and neither comes after it. -/
theorem max_cases (a b : Instant) : (a.max b = a ∧ a.before b = false) ∨ (a.max b = b ∧ b.before a = false) := by
  rw [max]
  split
  · next h =>
    right
    refine ⟨rfl, ?_⟩
    rw [before_iff] at h
    rw [not_before_iff]
    omega
  · next h => exact Or.inl ⟨rfl, Bool.not_eq_true _ ▸ h⟩

private theorem before_irrefl (a : Instant) : a.before a = false := by
  rw [not_before_iff]
  omega

def IsLast (t : Instant) (times : List Instant) : Prop := t ∈ times ∧ ∀ u ∈ times, t.before u = false

theorem isLast_singleton (t : Instant) : t.IsLast [t] := by
  refine ⟨List.mem_singleton_self t, ?_⟩
  intro u hu
  rw [List.mem_singleton.1 hu]
  exact before_irrefl t

/-- The later of two instants is the last. -/
theorem IsLast.max {times : List Instant} (h : t.IsLast times) (u : Instant) : (t.max u).IsLast (times ++ [u]) := by
  obtain ⟨hmem, hlast⟩ := h
  rcases max_cases t u with ⟨hmax, htu⟩ | ⟨hmax, hut⟩
  · rw [hmax]
    refine ⟨List.mem_append_left _ hmem, ?_⟩
    intro v hv
    rcases List.mem_append.1 hv with hv | hv
    · exact hlast v hv
    · rw [List.mem_singleton.1 hv]
      exact htu
  · rw [hmax]
    refine ⟨List.mem_append_right _ (List.mem_singleton_self u), ?_⟩
    intro v hv
    rcases List.mem_append.1 hv with hv | hv
    · exact not_before_trans hut (hlast v hv)
    · rw [List.mem_singleton.1 hv]
      exact before_irrefl u

/-- An instant that lies in a leap second. -/
def InLeapSecond (t : Instant) : Prop := nanosPerSecond ≤ t.nanos

instance : DecidablePred InLeapSecond := fun t => inferInstanceAs (Decidable (nanosPerSecond ≤ t.nanos))

/-- An instant from which time counts evenly: it lies in no leap second, or in one that ends a day. -/
def CountsEvenly (t : Instant) : Prop := t.InLeapSecond → t.secondOfDay = secondsPerDay - 1

theorem CountsEvenly.of_not_inLeapSecond (h : ¬ t.InLeapSecond) : t.CountsEvenly := fun hleap => absurd hleap h

private theorem secondOfDay_lt (t : Instant) : t.secondOfDay < secondsPerDay := Int.emod_lt_of_pos _ (by decide)

/-- No time of day comes after a leap second that ends a day, so that it is not counted. -/
theorem leapBetween_eq_zero (ha : a.CountsEvenly) (hb : ¬ b.InLeapSecond) : a.leapBetween b = 0 := by
  rw [InLeapSecond] at hb
  rw [leapBetween, if_neg hb, ite_self]
  split
  · next hlater =>
    rw [if_neg]
    intro hleap
    have hlast := ha hleap
    have hday := b.secondOfDay_lt
    omega
  · rfl

/-- Nanoseconds since 1970. Those of a leap second overlap with those of the second after it. -/
def ticks (t : Instant) : Int := t.seconds * nanosPerSecond + t.nanos

private theorem nanosBetween_eq (hsince : a.CountsEvenly) (hnow : ¬ b.InLeapSecond) :
    a.nanosBetween b = b.ticks - a.ticks := by
  rw [nanosBetween, leapBetween_eq_zero hsince hnow, ticks, ticks, nanosPerSecond]
  omega

/-- Outside leap seconds, the time that has passed is exact to the nanosecond, and none where the instant lies ahead. -/
theorem elapsed_eq (hsince : a.CountsEvenly) (hnow : ¬ b.InLeapSecond) : a.elapsed b = (b.ticks - a.ticks).toNat := by
  rw [elapsed, nanosBetween_eq hsince hnow]

/-- Outside leap seconds, later instants have no fewer nanoseconds. -/
theorem ticks_le (ha : ¬ a.InLeapSecond) (hab : b.before a = false) : a.ticks ≤ b.ticks := by
  rw [not_before_iff] at hab
  rw [InLeapSecond, nanosPerSecond] at ha
  rw [ticks, ticks, nanosPerSecond]
  omega

/-- The time that has passed grows as time goes by, and is the longer the earlier it began. -/
theorem elapsed_mono {since earlier : Instant} (hsince : since.CountsEvenly) (hearlier : earlier.CountsEvenly)
    (hbegins : earlier.ticks ≤ since.ticks) (ha : ¬ a.InLeapSecond) (hb : ¬ b.InLeapSecond)
    (hab : b.before a = false) : since.elapsed a ≤ earlier.elapsed b := by
  rw [elapsed_eq hsince ha, elapsed_eq hearlier hb]
  have hlater := ticks_le ha hab
  omega

end TieredLedger.Instant
