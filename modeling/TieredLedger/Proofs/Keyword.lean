import TieredLedger.Keyword
import TieredLedger.Proofs.Bytes
import TieredLedger.Proofs.Text.Words

/-! The keyword field of older ledgers: which keywords come back from it as they went in, and what comes back of others. -/
namespace TieredLedger

def Bytes.lowerAscii (b : UInt8) : UInt8 := if 65 ≤ b ∧ b ≤ 90 then b + 32 else b

namespace Keyword

/-- A list begins with another, once its elements are taken through `f`, and goes on after that. -/
def GoesOnFrom {α : Type} (f : α → α) (start xs : List α) : Prop :=
  ∃ front back, xs = front ++ back ∧ front.map f = start ∧ back ≠ []

/-- The bytes of a text begin with those of the mark, in letters of any case, and go on after them. -/
def Marked (s : String) : Prop := GoesOnFrom Bytes.lowerAscii (Bytes.ofText termMark) (Bytes.ofText s)

section Mark

variable {α : Type} {f : α → α}

private theorem goesOnFrom_nil {xs : List α} : GoesOnFrom f [] xs ↔ xs ≠ [] := by
  constructor
  · rintro ⟨front, back, rfl, hfront, hback⟩
    rw [List.map_eq_nil_iff] at hfront
    rwa [hfront, List.nil_append]
  · intro hxs
    exact ⟨[], xs, rfl, rfl, hxs⟩

private theorem not_goesOnFrom_cons_nil {m : α} {start : List α} : ¬ GoesOnFrom f (m :: start) [] := by
  rintro ⟨front, back, hxs, -, hback⟩
  exact hback (List.append_eq_nil_iff.1 hxs.symm).2

private theorem goesOnFrom_cons_cons {m x : α} {start xs : List α} :
    GoesOnFrom f (m :: start) (x :: xs) ↔ f x = m ∧ GoesOnFrom f start xs := by
  constructor
  · rintro ⟨front, back, hxs, hfront, hback⟩
    obtain ⟨y, front, rfl, hy, hstart⟩ := List.map_eq_cons_iff.1 hfront
    obtain ⟨rfl, rfl⟩ := List.cons.inj hxs
    exact ⟨hy, front, back, rfl, hstart, hback⟩
  · rintro ⟨rfl, front, back, rfl, rfl, hback⟩
    exact ⟨x :: front, back, rfl, rfl, hback⟩

private theorem goesOnFrom_iff_take {start xs : List α} :
    GoesOnFrom f start xs ↔ start.length < xs.length ∧ (xs.take start.length).map f = start := by
  induction start generalizing xs with
  | nil => rw [goesOnFrom_nil]; simp [List.length_pos_iff]
  | cons m start ih =>
    cases xs with
    | nil => simp [not_goesOnFrom_cons_nil]
    | cons x xs =>
      rw [goesOnFrom_cons_cons, ih]
      simp only [List.length_cons, List.take_succ_cons, List.map_cons, List.cons.injEq, Nat.add_lt_add_iff_right]
      exact and_left_comm

private theorem toNat_toLower (c : Char) :
    c.toLower.toNat = if 65 ≤ c.toNat ∧ c.toNat ≤ 90 then c.toNat + 32 else c.toNat := by
  have hcapital : (c.val ≥ 'A'.val ∧ c.val ≤ 'Z'.val) ↔ 65 ≤ c.toNat ∧ c.toNat ≤ 90 := Iff.rfl
  by_cases h : c.val ≥ 'A'.val ∧ c.val ≤ 'Z'.val
  · obtain ⟨hlow, hhigh⟩ := hcapital.1 h
    have hlower : c.toLower.val = c.val + ('a'.val - 'A'.val) := congrArg Char.val (dif_pos h)
    have hsum : (c.val + ('a'.val - 'A'.val)).toNat = c.toNat + 32 := by
      rw [UInt32.toNat_add]
      exact Nat.mod_eq_of_lt (by change c.toNat + 32 < 2 ^ 32; omega)
    rw [if_pos ⟨hlow, hhigh⟩, ← hsum, ← hlower]
    rfl
  · have hlower : c.toLower = c := dif_neg h
    rw [if_neg fun hc => h (hcapital.2 hc), hlower]

private theorem toNat_lowerAscii {n : Nat} (h : n < 128) :
    (Bytes.lowerAscii (UInt8.ofNat n)).toNat = if 65 ≤ n ∧ n ≤ 90 then n + 32 else n := by
  have hn : (UInt8.ofNat n).toNat = n := UInt8.toNat_ofNat_of_lt' (Nat.lt_trans h (by decide))
  have hcapital : (65 ≤ UInt8.ofNat n ∧ UInt8.ofNat n ≤ 90) ↔ 65 ≤ n ∧ n ≤ 90 := by
    rw [UInt8.le_iff_toNat_le, UInt8.le_iff_toNat_le, hn]
    exact Iff.rfl
  rw [Bytes.lowerAscii]
  split
  · next hc =>
    obtain ⟨hlow, hhigh⟩ := hcapital.1 hc
    rw [if_pos ⟨hlow, hhigh⟩, UInt8.toNat_add, hn]
    exact Nat.mod_eq_of_lt (by change n + 32 < 2 ^ 8; omega)
  · next hc => rw [if_neg fun hn => hc (hcapital.2 hn), hn]

private theorem encodeChar_of_ascii {c : Char} (h : c.toNat < 128) :
    String.utf8EncodeChar c = [UInt8.ofNat c.toNat] := by
  rcases Bytes.encodeChar_cases c with ⟨-, hbytes⟩ | ⟨hc, -⟩ | ⟨hc, -⟩ | ⟨hc, -⟩
  · exact hbytes
  all_goals
    change _ ≤ c.toNat at hc
    omega

private theorem encodeChar_of_not_ascii {c : Char} (h : 128 ≤ c.toNat) :
    ∃ b rest, String.utf8EncodeChar c = b :: rest ∧ 128 ≤ b.toNat := by
  rcases Bytes.encodeChar_cases c with ⟨hc, -⟩ | ⟨-, hc, hbytes⟩ | ⟨-, hc, hbytes⟩ | ⟨-, hc, hbytes⟩
  · change c.toNat < _ at hc
    omega
  all_goals
    refine ⟨_, _, hbytes, ?_⟩
    rw [UInt8.toNat_ofNat']
    omega

private theorem goesOnFrom_bytes {start cs : List Char} (hstart : ∀ m ∈ start, m.toNat < 128) :
    GoesOnFrom Bytes.lowerAscii (start.flatMap String.utf8EncodeChar) (cs.flatMap String.utf8EncodeChar) ↔
      GoesOnFrom Char.toLower start cs := by
  induction start generalizing cs with
  | nil =>
    rw [List.flatMap_nil, goesOnFrom_nil, goesOnFrom_nil]
    cases cs with
    | nil => simp
    | cons c cs => simp [Bytes.encodeChar_ne_nil c]
  | cons m start ih =>
    have hm := hstart m List.mem_cons_self
    have hrest : ∀ n ∈ start, n.toNat < 128 := fun n hn => hstart n (List.mem_cons_of_mem m hn)
    rw [List.flatMap_cons, encodeChar_of_ascii hm, List.singleton_append]
    cases cs with
    | nil => simp [not_goesOnFrom_cons_nil]
    | cons c cs =>
      rw [List.flatMap_cons, goesOnFrom_cons_cons]
      have hbyte : (UInt8.ofNat m.toNat).toNat = m.toNat := UInt8.toNat_ofNat_of_lt' (Nat.lt_trans hm (by decide))
      rcases Nat.lt_or_ge c.toNat 128 with hc | hc
      · have hsmall : Bytes.lowerAscii (UInt8.ofNat c.toNat) = UInt8.ofNat m.toNat ↔ c.toLower = m := by
          rw [← UInt8.toNat_inj, toNat_lowerAscii hc, hbyte, ← toNat_toLower, Char.toNat_inj]
        rw [encodeChar_of_ascii hc, List.singleton_append, goesOnFrom_cons_cons, hsmall, ih hrest]
      · obtain ⟨b, rest, hbytes, hb⟩ := encodeChar_of_not_ascii hc
        have hlower : Bytes.lowerAscii b = b := by
          rw [Bytes.lowerAscii, if_neg]
          rintro ⟨-, hhigh⟩
          exact absurd (UInt8.le_iff_toNat_le.1 hhigh) (Nat.not_le.2 (Nat.lt_of_lt_of_le (by decide) hb))
        rw [hbytes, List.cons_append, goesOnFrom_cons_cons, hlower]
        constructor
        · rintro ⟨rfl, -⟩
          omega
        · rintro ⟨rfl, -⟩
          rw [toNat_toLower] at hm
          split at hm <;> omega

/-- A word is read as a term exactly if its bytes say so. -/
theorem isMarked_iff {word : List Char} : isMarked word = true ↔ Marked (String.ofList word) := by
  have hascii : ∀ m ∈ termMark.toList, m.toNat < 128 := List.all_iff_forall_prop.1 (by decide)
  have hmark : Bytes.ofText termMark = termMark.toList.flatMap String.utf8EncodeChar := by
    rw [← Bytes.ofText_ofList, String.ofList_toList]
  rw [Marked, Bytes.ofText_ofList, hmark, goesOnFrom_bytes hascii, goesOnFrom_iff_take, isMarked, Bool.and_eq_true,
    decide_eq_true_eq, beq_iff_eq, String.length_toList]

instance (s : String) : Decidable (Marked s) :=
  decidable_of_iff (isMarked s.toList = true) (by rw [isMarked_iff, String.ofList_toList])

end Mark

/-- What a field holds as it is: a term that is one word, or a token that is one word and is not marked as a term. -/
def Canonical : Keyword → Prop
  | term value => Text.IsWord value
  | token value => Text.IsWord value ∧ ¬ Marked value

instance : DecidablePred Canonical
  | term value => inferInstanceAs (Decidable (Text.IsWord value))
  | token value => inferInstanceAs (Decidable (Text.IsWord value ∧ ¬ Marked value))

/-- Each word of a field is a keyword. -/
theorem parseField_eq (field : String) : parseField field = (Text.words field).map fun word => ofWord word.toList := by
  rw [parseField, Text.words, List.map_map]
  apply List.map_congr_left
  intro word _
  rw [Function.comp_apply, String.toList_ofList]

/-- Each keyword of a field is read for itself. -/
theorem parseField_renderField (ks : List Keyword) :
    parseField (renderField ks) = ks.flatMap fun k => parseField k.inField := by
  simp only [parseField_eq]
  rw [renderField, Text.words_intercalate_eq_flatMap, List.flatMap_map, List.map_flatMap]

private theorem isWord_inField_term {value : String} (h : Text.IsWord value) : Text.IsWord (term value).inField := by
  have hmark : ∀ c ∈ termMark.toList, Text.isBlank c = false := List.all_iff_forall_prop.1 (by decide)
  rw [Text.isWord_iff] at h ⊢
  rw [inField, String.toList_append]
  refine ⟨List.append_ne_nil_of_right_ne_nil _ h.1, ?_⟩
  intro c hc
  rcases List.mem_append.1 hc with hc | hc
  · exact hmark c hc
  · exact h.2 c hc

private theorem ofWord_inField_term {value : String} (h : value ≠ "") :
    ofWord (term value).inField.toList = term value := by
  have hsmall : termMark.toList.map Char.toLower = termMark.toList := by decide
  have hlength : termMark.toList.length = termMark.length := String.length_toList
  have hvalue : value.toList ≠ [] := fun hnil => h (String.toList_eq_nil_iff.1 hnil)
  have hmarked : isMarked (termMark.toList ++ value.toList) = true := by
    rw [isMarked, List.take_left' hlength, hsmall, Bool.and_eq_true, decide_eq_true_eq, List.length_append, hlength]
    exact ⟨Nat.lt_add_of_pos_right (List.length_pos_iff.2 hvalue), beq_self_eq_true _⟩
  rw [inField, String.toList_append, ofWord, if_pos hmarked, List.drop_left' hlength, String.ofList_toList]

/-- A word without the mark is a token as it stands. -/
theorem ofWord_of_not_marked {word : String} (h : ¬ Marked word) : ofWord word.toList = token word := by
  have hmarked : ¬ isMarked word.toList = true := by rwa [isMarked_iff, String.ofList_toList]
  rw [ofWord, if_neg hmarked, String.ofList_toList]

/-- A field of one word holds one keyword. -/
theorem parseField_of_isWord {word : String} (h : Text.IsWord word) : parseField word = [ofWord word.toList] := by
  rw [parseField_eq, Text.words_of_isWord h, List.map_singleton]

/-- A canonical keyword comes back from a field of its own. -/
theorem Canonical.parseField_inField {k : Keyword} (h : k.Canonical) : parseField k.inField = [k] := by
  cases k with
  | term value => rw [parseField_of_isWord (isWord_inField_term h), ofWord_inField_term h.1]
  | token value => rw [inField, parseField_of_isWord h.1, ofWord_of_not_marked h.2]

private theorem canonical_ofWord {word : String} (h : Text.IsWord word) : (ofWord word.toList).Canonical := by
  obtain ⟨-, hclear⟩ := Text.isWord_iff.1 h
  rw [ofWord]
  split
  · next hmarked =>
    rw [isMarked, Bool.and_eq_true, decide_eq_true_eq] at hmarked
    change Text.IsWord _
    rw [Text.isWord_iff, String.toList_ofList]
    refine ⟨?_, fun c hc => hclear c (List.mem_of_mem_drop hc)⟩
    rw [Ne, List.drop_eq_nil_iff, Nat.not_le]
    exact hmarked.1
  · next hmarked =>
    rw [isMarked_iff, String.ofList_toList] at hmarked
    rw [String.ofList_toList]
    exact ⟨h, hmarked⟩

private theorem canonical_of_mem_parseField {field : String} {k : Keyword} (h : k ∈ parseField field) :
    k.Canonical := by
  rw [parseField_eq] at h
  obtain ⟨word, hword, rfl⟩ := List.mem_map.1 h
  exact canonical_ofWord (Text.isWord_of_mem_words hword)

private theorem parseField_renderField_of_canonical {ks : List Keyword} (h : ∀ k ∈ ks, k.Canonical) :
    parseField (renderField ks) = ks := by
  calc parseField (renderField ks) = ks.flatMap fun k => parseField k.inField := parseField_renderField ks
    _ = ks.flatMap fun k => [k] := List.flatMap_congr fun k hk => (h k hk).parseField_inField
    _ = ks := List.flatMap_singleton' ks

/-- Keywords come back from a field as they went in exactly if each of them is canonical. Whatever is read from a field
is so, and writing and reading it again changes nothing. -/
theorem field_keeps_canonical_keywords :
    (∀ ks, parseField (renderField ks) = ks ↔ ∀ k ∈ ks, k.Canonical) ∧
    (∀ field, ∀ k ∈ parseField field, k.Canonical) ∧
    ∀ field, parseField (renderField (parseField field)) = parseField field := by
  have hread : ∀ field, ∀ k ∈ parseField field, k.Canonical := fun field k hk => canonical_of_mem_parseField hk
  refine ⟨?_, hread, fun field => parseField_renderField_of_canonical (hread field)⟩
  intro ks
  constructor
  · intro hback
    rw [← hback]
    exact hread (renderField ks)
  · exact parseField_renderField_of_canonical

/-- A mark with nothing after it is a token, and as such it may stand in a field. -/
theorem field_keeps_bare_mark : token "public:" ∈ parseField "PUBLIC:Alice public: publi€:x" ∧
    (token "public:").Canonical := by
  have hread : token "public:" ∈ parseField "PUBLIC:Alice public: publi€:x" := by decide +kernel
  exact ⟨hread, field_keeps_canonical_keywords.2.1 _ _ hread⟩

end Keyword

end TieredLedger
