import TieredLedger.Logging.Filter
import TieredLedger.Proofs.Json.Record
import TieredLedger.Proofs.Text.Lowercase
import TieredLedger.Proofs.Text.Number
import TieredLedger.Settings

/-! Settings that are taken from variables. Each is what the text of its own variable stands for, and the usual one
where the variable is unset or its text stands for nothing; only a flag that stands for nothing is off instead. -/
namespace TieredLedger

def LogLevel.names : List (String × LogLevel) :=
  [("warning", .warn), ("trace", .trace), ("debug", .debug), ("info", .info), ("warn", .warn), ("error", .error)]

def LogFormat.names : List (String × LogFormat) := [("pretty", .pretty), ("json", .json), ("compact", .compact)]

namespace Settings

/-- A variable: its name, the setting that it is for, and which texts stand for which values of that. -/
structure Variable where
  Value : Type
  name : String
  setting : Settings → Value
  Means : String → Value → Prop

def Counts (bound : Nat) (text : String) (n : Nat) : Prop := Text.Spells (Text.trim text) n ∧ n < bound

def CountsWord (text : String) (w : UInt64) : Prop := Counts UInt64.size text w.toNat

/-- A text stands for so many whole days, as many as a 32-bit word can count. -/
def CountsDays (text : String) (span : Span) : Prop :=
  ∃ n, Counts UInt32.size text n ∧ span.seconds.toNat = n * 86400 ∧ span.nanos = 0

/-- A text stands for what the words of a list do, in letters of any case. -/
def Names {α : Type} (names : List (String × α)) (text : String) (a : α) : Prop :=
  ∃ entry ∈ names, entry.2 = a ∧ Text.ReadsAs (Text.trim text) entry.1

def answers : List (String × Bool) := [("true", true), ("1", true), ("false", false), ("0", false)]

/-- The variables that are not flags. -/
def quantities : List Variable :=
  [⟨Span, "STRATA_HOT_THRESHOLD_DAYS", (·.policy.hotThreshold), CountsDays⟩,
    ⟨Span, "STRATA_WARM_THRESHOLD_DAYS", (·.policy.warmThreshold), CountsDays⟩,
    ⟨Span, "STRATA_COLD_THRESHOLD_DAYS", (·.policy.coldThreshold), CountsDays⟩,
    ⟨UInt64, "STRATA_SIZE_THRESHOLD_BYTES", (·.policy.sizeThreshold), CountsWord⟩,
    ⟨UInt64, "STRATA_ACCESS_COUNT_THRESHOLD", (·.policy.accessThreshold), CountsWord⟩,
    ⟨String, "STRATA_STORE_PATH", (·.store.basePath), fun text path => path = text⟩,
    ⟨Option String, "STRATA_STORE_PASSWORD", (·.store.password), fun text password => password = some text⟩,
    ⟨Nat, "STRATA_SEARCH_MAX_RESULTS", (·.search.maxResults), Counts UInt64.size⟩,
    ⟨LogLevel, "STRATA_LOG_LEVEL", (·.log.level), Names LogLevel.names⟩,
    ⟨LogFormat, "STRATA_LOG_FORMAT", (·.log.format), Names LogFormat.names⟩]

def flags : List (String × (Settings → Bool)) :=
  [("STRATA_COMPRESS_ON_COLD", (·.policy.compressOnCold)), ("STRATA_AUTO_TIERING", (·.policy.autoTiering))]

def flag (f : String × (Settings → Bool)) : Variable := ⟨Bool, f.1, f.2, Names answers⟩

def Variable.all : List Variable := quantities ++ flags.map flag

/-- A value is the one that a variable stands for, or the usual one if it is unset or stands for none. -/
def Variable.Rule (v : Variable) (text? : Option String) (value : v.Value) : Prop :=
  (∃ text, text? = some text ∧ v.Means text value) ∨
    (∀ text, text? = some text → ∀ other, ¬ v.Means text other) ∧ value = v.setting standard

variable {text : String}

section Meanings

private theorem word?_eq_some_iff {w : UInt64} : word? text = some w ↔ CountsWord text w := by
  rw [word?, Option.map_eq_some_iff, CountsWord, Counts]
  constructor
  · rintro ⟨n, hn, rfl⟩
    rw [Text.number?_eq_some_iff] at hn
    rwa [UInt64.toNat_ofNat_of_lt' hn.2]
  · intro h
    exact ⟨w.toNat, Text.number?_eq_some_iff.2 h, UInt64.ofNat_toNat⟩

private theorem seconds_ofDays {n : Nat} (h : n < UInt32.size) :
    (Span.ofDays (UInt32.ofNat n)).seconds.toNat = n * 86400 := by
  have hdays : (UInt32.ofNat n).toUInt64.toNat = n := by
    rw [UInt32.toNat_toUInt64, UInt32.toNat_ofNat_of_lt' h]
  have hfits : n * 86400 < 2 ^ 64 := by
    rw [UInt32.size] at h
    omega
  rw [Span.ofDays, Span.ofSeconds, UInt64.toNat_mul, hdays]
  exact Nat.mod_eq_of_lt hfits

private theorem days?_eq_some_iff {span : Span} : days? text = some span ↔ CountsDays text span := by
  rw [days?, Option.map_eq_some_iff]
  constructor
  · rintro ⟨n, hn, rfl⟩
    rw [Text.number?_eq_some_iff] at hn
    exact ⟨n, hn, seconds_ofDays hn.2, rfl⟩
  · rintro ⟨n, hn, hseconds, hnanos⟩
    obtain ⟨seconds, nanos, nanos_lt⟩ := span
    obtain rfl : nanos = 0 := hnanos
    obtain rfl : (Span.ofDays (UInt32.ofNat n)).seconds = seconds :=
      UInt64.toNat_inj.1 ((seconds_ofDays hn.2).trans hseconds.symm)
    exact ⟨n, Text.number?_eq_some_iff.2 hn, rfl⟩

example : days? " +4294967295" = some ⟨4294967295 * 86400, 0, by decide⟩ := by decide

/-- A list of names gives a text what it gives to the lower-case form of the text. -/
theorem find?_names {α : Type} {names : List (String × α)}
    (hwords : ∀ word ∈ names.map Prod.fst, Text.IsAsciiOnly word) (hnodup : (names.map Prod.fst).Nodup) {a : α} :
    (names.find? fun entry => entry.1 == Text.lowercase (Text.trim text)).map Prod.snd = some a ↔
      Names names text a := by
  have hreads : ∀ entry ∈ names,
      entry.1 = Text.lowercase (Text.trim text) ↔ Text.ReadsAs (Text.trim text) entry.1 := by
    intro entry hentry
    rw [← Text.lowercase_eq_iff (hwords entry.1 (List.mem_map_of_mem hentry)), eq_comm]
  rw [Json.find?_name_eq_some hnodup, Names]
  constructor
  · intro hmem
    exact ⟨_, hmem, rfl, (hreads _ hmem).1 rfl⟩
  · rintro ⟨entry, hmem, rfl, hread⟩
    rw [← (hreads entry hmem).2 hread]
    exact hmem

private theorem level_eq_some_iff {l : LogLevel} : LogLevel.parse? text = some l ↔ Names LogLevel.names text l := by
  have hnames : LogLevel.names = ("warning", .warn) :: LogLevel.all.map fun l => (l.name, l) := rfl
  rw [← find?_names (by decide) (by decide), LogLevel.parse?, hnames, List.find?_cons, List.find?_map]
  by_cases hspelled : Text.lowercase (Text.trim text) = "warning"
  · rw [if_pos hspelled, hspelled]
    rfl
  · rw [if_neg hspelled, beq_eq_false_iff_ne.2 (Ne.symm hspelled), Option.map_map]
    exact Iff.of_eq (congrArg (· = some l) Option.map_id'.symm)

private theorem format_eq_some_iff {f : LogFormat} : LogFormat.parse? text = some f ↔ Names LogFormat.names text f := by
  have hnames : LogFormat.names = LogFormat.all.map fun f => (f.name, f) := rfl
  rw [← find?_names (by decide) (by decide), LogFormat.parse?, hnames, List.find?_map, Option.map_map]
  exact Iff.of_eq (congrArg (· = some f) Option.map_id'.symm)

private theorem isYes_of_names {b : Bool} (h : Names answers text b) : isYes text = b := by
  obtain ⟨entry, hmem, rfl, hread⟩ := h
  have hwords : ∀ word ∈ answers.map Prod.fst, Text.IsAsciiOnly word := by decide
  rw [← Text.lowercase_eq_iff (hwords entry.1 (List.mem_map_of_mem hmem))] at hread
  have hanswers : ∀ entry ∈ answers, (decide (entry.1 = "true") || decide (entry.1 = "1")) = entry.2 := by decide
  rw [isYes, hread]
  exact hanswers entry hmem

private theorem names_of_isYes (h : isYes text = true) : Names answers text true := by
  have hwords : ∀ word ∈ answers.map Prod.fst, Text.IsAsciiOnly word := by decide
  rw [isYes, Bool.or_eq_true, decide_eq_true_iff, decide_eq_true_iff] at h
  rcases h with hword | hword
  · exact ⟨("true", true), by decide, rfl, (Text.lowercase_eq_iff (hwords _ (by decide))).1 hword⟩
  · exact ⟨("1", true), by decide, rfl, (Text.lowercase_eq_iff (hwords _ (by decide))).1 hword⟩

end Meanings

section Readers

/-- A variable is read by a function: that gives a text the value it stands for, and where it gives none the setting is
the usual one. -/
structure Variable.ReadBy (v : Variable) (read? : String → Option v.Value) : Prop where
  means : ∀ text value, read? text = some value ↔ v.Means text value
  setting : ∀ lookup, v.setting (ofLookup lookup) = ((lookup v.name).bind read?).getD (v.setting standard)

variable {v : Variable} {read? : String → Option v.Value}

/-- What a reader takes from an unset variable or from a text. -/
theorem Variable.ReadBy.rule (h : v.ReadBy read?) (text? : Option String) :
    v.Rule text? ((text?.bind read?).getD (v.setting standard)) := by
  cases hread : text?.bind read? with
  | none =>
    refine .inr ⟨?_, rfl⟩
    rintro text rfl other hmeans
    rw [Option.bind_some, (h.means text other).2 hmeans] at hread
    cases hread
  | some value =>
    obtain ⟨text, rfl, hvalue⟩ := Option.bind_eq_some_iff.1 hread
    exact .inl ⟨text, rfl, (h.means text value).1 hvalue⟩

/-- Every variable that is not a flag has a reader. -/
theorem exists_readBy (hv : v ∈ quantities) : ∃ read?, v.ReadBy read? := by
  simp only [quantities, List.mem_cons, List.not_mem_nil, or_false] at hv
  rcases hv with rfl | rfl | rfl | rfl | rfl | rfl | rfl | rfl | rfl | rfl
  · exact ⟨days?, fun _ _ => days?_eq_some_iff, fun _ => rfl⟩
  · exact ⟨days?, fun _ _ => days?_eq_some_iff, fun _ => rfl⟩
  · exact ⟨days?, fun _ _ => days?_eq_some_iff, fun _ => rfl⟩
  · exact ⟨word?, fun _ _ => word?_eq_some_iff, fun _ => rfl⟩
  · exact ⟨word?, fun _ _ => word?_eq_some_iff, fun _ => rfl⟩
  · exact ⟨some, fun _ _ => Option.some_inj.trans eq_comm, fun _ => by rw [Option.bind_fun_some]; rfl⟩
  · exact ⟨fun text => some (some text), fun _ _ => Option.some_inj.trans eq_comm,
      fun lookup => by simp only [ofLookup]; cases lookup "STRATA_STORE_PASSWORD" <;> rfl⟩
  · exact ⟨fun text => Text.number? UInt64.size (Text.trim text), fun _ _ => Text.number?_eq_some_iff,
      fun _ => rfl⟩
  · exact ⟨LogLevel.parse?, fun _ _ => level_eq_some_iff, fun _ => rfl⟩
  · exact ⟨LogFormat.parse?, fun _ _ => format_eq_some_iff, fun _ => rfl⟩

/-- A flag is on where its text says yes, and the usual one where it is unset. -/
theorem flag_setting {f : String × (Settings → Bool)} (hf : f ∈ flags) (lookup : String → Option String) :
    f.2 (ofLookup lookup) = ((lookup f.1).map isYes).getD (f.2 standard) := by
  simp only [flags, List.mem_cons, List.not_mem_nil, or_false] at hf
  rcases hf with rfl | rfl <;> rfl

private theorem flag_rule {f : String × (Settings → Bool)} (hf : f ∈ flags) {lookup : String → Option String}
    (hanswer : ∀ text, lookup f.1 = some text → ∃ b, Names answers text b) :
    (flag f).Rule (lookup f.1) (f.2 (ofLookup lookup)) := by
  rw [flag_setting hf]
  cases hset : lookup f.1 with
  | none => exact .inr ⟨fun text hset => (Option.some_ne_none text hset.symm).elim, rfl⟩
  | some text =>
    obtain ⟨b, hb⟩ := hanswer text hset
    refine .inl ⟨text, rfl, ?_⟩
    rw [Option.map_some, Option.getD_some, isYes_of_names hb]
    exact hb

private theorem flag_off {f : String × (Settings → Bool)} (hf : f ∈ flags) {lookup : String → Option String}
    (hset : lookup f.1 = some text) (hneither : ∀ b, ¬ Names answers text b) : f.2 (ofLookup lookup) = false := by
  rw [flag_setting hf, hset, Option.map_some, Option.getD_some, Bool.eq_false_iff]
  exact fun hyes => hneither true (names_of_isYes hyes)

private theorem mem_all : v ∈ Variable.all ↔ v ∈ quantities ∨ ∃ f ∈ flags, flag f = v := by
  rw [Variable.all, List.mem_append, List.mem_map]

/-- A setting depends on its own variable alone. -/
theorem setting_eq_of_same (hv : v ∈ Variable.all) {lookup other : String → Option String}
    (hsame : other v.name = lookup v.name) : v.setting (ofLookup other) = v.setting (ofLookup lookup) := by
  rcases mem_all.1 hv with hquantity | ⟨f, hf, rfl⟩
  · obtain ⟨read?, hread⟩ := exists_readBy hquantity
    rw [hread.setting, hread.setting, hsame]
  · change other f.1 = lookup f.1 at hsame
    change f.2 (ofLookup other) = f.2 (ofLookup lookup)
    rw [flag_setting hf, flag_setting hf, hsame]

/-- No text stands for two values. -/
theorem means_unique (hv : v ∈ Variable.all) {a b : v.Value} (ha : v.Means text a) (hb : v.Means text b) : a = b := by
  rcases mem_all.1 hv with hquantity | ⟨f, -, rfl⟩
  · obtain ⟨read?, hread⟩ := exists_readBy hquantity
    rw [← hread.means] at ha hb
    exact Option.some.inj (ha.symm.trans hb)
  · exact (isYes_of_names ha).symm.trans (isYes_of_names hb)

end Readers

/-- Each setting depends on its own variable alone, no text stands for two values, and the variables that are not flags
follow the rule. A flag follows it too where it is unset or says yes or no; where it says neither it is off, whatever is
usual. -/
theorem variables_decide_settings (lookup : String → Option String) :
    (Variable.all.map Variable.name).Nodup ∧
      (∀ v ∈ Variable.all, ∀ other : String → Option String, other v.name = lookup v.name →
        v.setting (ofLookup other) = v.setting (ofLookup lookup)) ∧
      (∀ v ∈ Variable.all, ∀ text a b, v.Means text a → v.Means text b → a = b) ∧
      (∀ v ∈ quantities, v.Rule (lookup v.name) (v.setting (ofLookup lookup))) ∧
      ∀ f ∈ flags,
        ((∀ text, lookup f.1 = some text → ∃ b, Names answers text b) →
          (flag f).Rule (lookup f.1) (f.2 (ofLookup lookup))) ∧
        ∀ text, lookup f.1 = some text → (∀ b, ¬ Names answers text b) → f.2 (ofLookup lookup) = false := by
  refine ⟨by decide, fun _ hv _ => setting_eq_of_same hv, fun _ hv _ _ _ => means_unique hv, ?_,
    fun _ hf => ⟨flag_rule hf, fun _ => flag_off hf⟩⟩
  intro v hv
  obtain ⟨read?, hread⟩ := exists_readBy hv
  rw [hread.setting]
  exact hread.rule (lookup v.name)

/-- Variables that turn compression off in odd letters and ask for sweeps with a word that is no answer. -/
def oddAnswers : String → Option String
  | "STRATA_COMPRESS_ON_COLD" => some " FaLse\n"
  | "STRATA_AUTO_TIERING" => some "yes"
  | _ => none

private theorem not_names_yes : ∀ b, ¬ Names answers "yes" b := by
  unfold Names
  decide

/-- Odd letters count for a flag, and a word that is no answer turns sweeps off. -/
theorem odd_answers_are_taken :
    (flag ("STRATA_COMPRESS_ON_COLD", (·.policy.compressOnCold))).Rule (some " FaLse\n")
        (ofLookup oddAnswers).policy.compressOnCold ∧
      (ofLookup oddAnswers).policy.autoTiering = false := by
  obtain ⟨-, -, -, -, hflags⟩ := variables_decide_settings oddAnswers
  constructor
  · refine (hflags ("STRATA_COMPRESS_ON_COLD", (·.policy.compressOnCold)) (.head _)).1 fun text hset => ?_
    obtain rfl : " FaLse\n" = text := Option.some.inj hset
    exact ⟨false, ("false", false), by decide, rfl, by decide⟩
  · exact (hflags ("STRATA_AUTO_TIERING", (·.policy.autoTiering)) (.tail _ (.head _))).2 "yes" rfl not_names_yes

/-- A word that is no answer does not leave its flag as usual. -/
theorem odd_answers_break_the_rule :
    ¬ ∀ v ∈ Variable.all, v.Rule (oddAnswers v.name) (v.setting (ofLookup oddAnswers)) := by
  intro hrule
  have hmem : flag ("STRATA_AUTO_TIERING", (·.policy.autoTiering)) ∈ Variable.all :=
    List.mem_append_right _ (.tail _ (.head _))
  rcases hrule _ hmem with ⟨text, hset, hnamed⟩ | ⟨-, hstandard⟩
  · obtain rfl : "yes" = text := Option.some.inj hset
    exact not_names_yes _ hnamed
  · exact Bool.false_ne_true hstandard

end Settings

/-- The filters made of levels are read without fault, so that logging starts where no filter is set. -/
theorem LogSettings.start_of_filter_none {s : LogSettings} (h : s.filter = none) :
    s.start LogFilter.check false = .ok () := by
  have hcheck : ∀ level ∈ LogLevel.all,
      LogFilter.check (String.intercalate "," (targets.map fun target => target ++ "=" ++ level.name)) = .ok () := by
    decide +kernel
  have hlevel : s.level ∈ LogLevel.all := by cases s.level <;> decide
  rw [start, directive, h, Option.getD_none, hcheck s.level hlevel]
  rfl

end TieredLedger
