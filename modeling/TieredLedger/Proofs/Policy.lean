import TieredLedger.Proofs.Classify
import TieredLedger.Proofs.Json.Reader
import TieredLedger.Proofs.Json.Record

/-! Policies that are written as JSON and read back. Thresholds are written in whole seconds, so a policy comes back as it
was if its thresholds are whole seconds, and otherwise with lower ones. -/
namespace TieredLedger

namespace Span

def inSeconds (s : Span) : Span := .ofSeconds s.seconds

/-- Whether a span is some number of whole seconds. -/
def IsWhole (s : Span) : Prop := s.nanos = 0

/-- An age that reaches the whole seconds of a span, but not the span. -/
def CutsOff (s : Span) (age : Nat) : Prop := s.inSeconds.total ≤ age ∧ age < s.total

private theorem inSeconds_eq_iff {s : Span} : s.inSeconds = s ↔ s.IsWhole := by
  constructor
  · intro h
    exact (congrArg nanos h).symm
  · obtain ⟨seconds, nanos, nanos_lt⟩ := s
    rintro rfl
    rfl

private theorem total_inSeconds (s : Span) : s.inSeconds.total = s.seconds.toNat * nanosPerSecond := by
  rw [total, inSeconds, ofSeconds]
  dsimp only
  rw [Nat.add_zero]

private theorem total_inSeconds_lt {s t : Span} : s.inSeconds.total < t.inSeconds.total ↔ s.seconds < t.seconds := by
  rw [total_inSeconds, total_inSeconds, UInt64.lt_iff_toNat_lt]
  exact Nat.mul_lt_mul_right (by decide)

/-- Ages are the same on both sides of a span and of its whole seconds, unless the span cuts them off. -/
theorem lt_total_inSeconds_iff {s : Span} {age : Nat} (h : ¬ s.CutsOff age) :
    age < s.inSeconds.total ↔ age < s.total := by
  have hle : s.inSeconds.total ≤ s.total := by
    rw [total_inSeconds, total]
    exact Nat.le_add_right _ _
  rw [CutsOff] at h
  omega

end Span

namespace Policy

variable {p : Policy}

def thresholds (p : Policy) : List Span := [p.hotThreshold, p.warmThreshold, p.coldThreshold]

def inSeconds (p : Policy) : Policy :=
  { p with
    hotThreshold := p.hotThreshold.inSeconds
    warmThreshold := p.warmThreshold.inSeconds
    coldThreshold := p.coldThreshold.inSeconds }

private theorem inSeconds_eq_iff : p.inSeconds = p ↔ ∀ s ∈ p.thresholds, s.IsWhole := by
  cases p with
  | mk hot warm cold =>
    simp only [inSeconds, thresholds, Policy.mk.injEq, Span.inSeconds_eq_iff, and_true, List.forall_mem_cons,
      List.not_mem_nil, false_implies, implies_true]

/-- A policy is read back with its thresholds in whole seconds. -/
theorem ofJson?_toJson (p : Policy) : ofJson? p.toJson = some p.inSeconds := by
  have hrecord := Json.record?_record [("hot_threshold", .word p.hotThreshold.seconds),
    ("warm_threshold", .word p.warmThreshold.seconds), ("cold_threshold", .word p.coldThreshold.seconds),
    ("size_threshold_bytes", .word p.sizeThreshold), ("access_count_threshold", .word p.accessThreshold),
    ("compress_on_cold", .bool p.compressOnCold), ("enable_auto_tiering", .bool p.autoTiering)]
    (by simp only [List.map_cons, List.map_nil]; decide)
  simp only [List.map_cons, List.map_nil] at hrecord
  rw [ofJson?, toJson, hrecord]
  simp only [Option.bind_eq_bind, Option.bind_some, Json.required, Json.word?_word, Json.bool?]
  rfl

private theorem plain_toJson (p : Policy) : p.toJson.Plain := by
  refine Json.Plain.record fun field hfield => ?_
  simp only [List.mem_cons, List.not_mem_nil, or_false] at hfield
  rcases hfield with rfl | rfl | rfl | rfl | rfl | rfl | rfl
  · exact .natural _
  · exact .natural _
  · exact .natural _
  · exact .natural _
  · exact .natural _
  · exact .bool _
  · exact .bool _

/-- In whole seconds the thresholds are accepted if they still increase. -/
theorem validate_inSeconds : p.inSeconds.validate = .ok () ↔ 0 < p.hotThreshold.seconds ∧
    p.hotThreshold.seconds < p.warmThreshold.seconds ∧ p.warmThreshold.seconds < p.coldThreshold.seconds := by
  have hpos : 0 < p.hotThreshold.inSeconds.total ↔ 0 < p.hotThreshold.seconds :=
    Span.total_inSeconds_lt (s := .ofSeconds 0)
  rw [validate_eq_ok, inSeconds]
  dsimp only
  rw [hpos, Span.total_inSeconds_lt, Span.total_inSeconds_lt]

/-- A block whose age no threshold cuts off is in the same tier by the thresholds in whole seconds. -/
theorem classify_inSeconds {block : Block} {now : Instant}
    (h : ∀ s ∈ p.thresholds, ¬ s.CutsOff (block.createdAt.elapsed now)) (access : Access) :
    classify block access p.inSeconds now = classify block access p now := by
  simp only [thresholds, List.forall_mem_cons] at h
  obtain ⟨hhot, hwarm, hcold, -⟩ := h
  rw [classify, classify, inSeconds]
  dsimp only
  simp only [Span.lt_total_inSeconds_iff hhot, Span.lt_total_inSeconds_iff hwarm, Span.lt_total_inSeconds_iff hcold]

/-- A policy comes back from its JSON form, and from the text of that, with its thresholds in whole seconds: as it was if
they are whole seconds, accepted if they still increase, and with the same tier for every block whose age none of them
cuts off. -/
theorem comes_back_in_whole_seconds (p : Policy) : ∃ q, ofJson? p.toJson = some q ∧
    (Json.parse? p.toJson.pretty).bind ofJson? = some q ∧ q = p.inSeconds ∧
    (q = p ↔ ∀ s ∈ p.thresholds, s.IsWhole) ∧
    (q.validate = .ok () ↔ 0 < p.hotThreshold.seconds ∧ p.hotThreshold.seconds < p.warmThreshold.seconds ∧
      p.warmThreshold.seconds < p.coldThreshold.seconds) ∧
    ∀ (block : Block) (now : Instant), (∀ s ∈ p.thresholds, ¬ s.CutsOff (block.createdAt.elapsed now)) →
      ∀ access, classify block access q now = classify block access p now := by
  refine ⟨p.inSeconds, p.ofJson?_toJson, ?_, rfl, inSeconds_eq_iff, validate_inSeconds,
    fun _ _ => classify_inSeconds⟩
  rw [Json.parse?_pretty p.plain_toJson]
  exact p.ofJson?_toJson

def within (hot warm cold : Span) : Policy :=
  { standard with hotThreshold := hot, warmThreshold := warm, coldThreshold := cold }

def halfSecond : Policy := within { seconds := 0, nanos := 500000000 } (.ofSeconds 1) (.ofSeconds 2)

/-- A policy in whole seconds, up to the longest span, comes back as it was, and one that counts half seconds recommends
the same tier as before for a block that is half a second old. -/
theorem longest_span_comes_back :
    ofJson? (within (.ofSeconds 1) (.ofSeconds 2) (.ofSeconds 0xFFFFFFFFFFFFFFFF)).toJson =
      some (within (.ofSeconds 1) (.ofSeconds 2) (.ofSeconds 0xFFFFFFFFFFFFFFFF)) ∧
    ∃ q, ofJson? halfSecond.toJson = some q ∧ ∀ access,
      classify (.madeAt .epoch) access q { seconds := 0, nanos := 500000000 } =
        classify (.madeAt .epoch) access halfSecond { seconds := 0, nanos := 500000000 } := by
  obtain ⟨q, hq, -, -, hwhole, -⟩ :=
    comes_back_in_whole_seconds (within (.ofSeconds 1) (.ofSeconds 2) (.ofSeconds 0xFFFFFFFFFFFFFFFF))
  obtain ⟨r, hr, -, -, -, -, hsame⟩ := comes_back_in_whole_seconds halfSecond
  refine ⟨?_, r, hr, hsame _ _ ?_⟩
  · rw [hq, hwhole.2]
    simp [thresholds, within, Span.IsWhole, Span.ofSeconds]
  · simp only [thresholds, List.forall_mem_cons, Span.CutsOff]
    decide +kernel

/-- Half a second is lost: a policy that is accepted comes back as another, which is refused and recommends another
tier. -/
theorem half_second_is_lost : halfSecond.validate = .ok () ∧ ∃ q, ofJson? halfSecond.toJson = some q ∧ q ≠ halfSecond ∧
    q.validate = .error .zeroHotThreshold ∧
    classify (.madeAt .epoch) (.readAt .epoch 6) halfSecond { seconds := 0, nanos := 200000000 } = .hot ∧
    classify (.madeAt .epoch) (.readAt .epoch 6) q { seconds := 0, nanos := 200000000 } = .warm := by
  refine ⟨validate_eq_ok.2 (by decide +kernel), halfSecond.inSeconds, halfSecond.ofJson?_toJson, ?_,
    if_pos (by decide +kernel), ?_, ?_⟩
  all_goals decide +kernel

end Policy

end TieredLedger
