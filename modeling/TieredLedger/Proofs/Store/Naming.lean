import TieredLedger.Proofs.Store.Handle
import TieredLedger.Tiering.Service

/-! The names of blobs are plain texts that end in digits of a checksum. The ending has a fixed length, so a name tells
the hint in front of it, whatever dashes and digits that holds. -/
namespace TieredLedger.Handle

variable {hint other : Option String} {sum : String} {c : Char}

def IsHexDigit (c : Char) : Prop := ('0' ≤ c ∧ c ≤ '9') ∨ ('a' ≤ c ∧ c ≤ 'f') ∨ ('A' ≤ c ∧ c ≤ 'F')

instance (c : Char) : Decidable (IsHexDigit c) := inferInstanceAs (Decidable (_ ∨ _))

/-- The text of a checksum: 64 hexadecimal digits. -/
structure IsChecksum (sum : String) : Prop where
  length : sum.toList.length = 64
  digits : ∀ c ∈ sum.toList, IsHexDigit c

/-- A letter from A to Z or from a to z, a digit from 0 to 9, a dash or an underscore. -/
def IsPlain (c : Char) : Prop :=
  ('A' ≤ c ∧ c ≤ 'Z') ∨ ('a' ≤ c ∧ c ≤ 'z') ∨ ('0' ≤ c ∧ c ≤ '9') ∨ c = '-' ∨ c = '_'

private theorem isAllowed_iff : isAllowed c = true ↔ IsPlain c := by
  have halphanum : c.isAlphanum = (c.isUpper || c.isLower || c.isDigit) := rfl
  have hupper : c.isUpper = true ↔ 'A' ≤ c ∧ c ≤ 'Z' := decide_eq_true_iff
  have hlower : c.isLower = true ↔ 'a' ≤ c ∧ c ≤ 'z' :=
    Bool.and_eq_true_iff.trans (and_congr decide_eq_true_iff decide_eq_true_iff)
  have hdigit : c.isDigit = true ↔ '0' ≤ c ∧ c ≤ '9' :=
    Bool.and_eq_true_iff.trans (and_congr decide_eq_true_iff decide_eq_true_iff)
  rw [isAllowed, halphanum, IsPlain]
  simp only [Bool.or_eq_true, decide_eq_true_eq, hupper, hlower, hdigit, or_assoc]

private theorem IsHexDigit.isAllowed (h : IsHexDigit c) : isAllowed c = true := by
  rw [isAllowed_iff]
  rcases h with h | h | h
  · exact Or.inr (Or.inr (Or.inl h))
  · exact Or.inr (Or.inl ⟨h.1, Char.le_trans h.2 (by decide)⟩)
  · exact Or.inl ⟨h.1, Char.le_trans h.2 (by decide)⟩

/-- The hint in a handle is the given one with an underscore in place of every other character, or the usual one when
none is given or it is empty. -/
theorem sanitized_eq (hint : Option String) : sanitized hint =
    if hint.getD "" = "" then "blob".toList
    else (hint.getD "").toList.map fun c => if isAllowed c then c else '_' := by
  cases hint with
  | none => decide
  | some s =>
    rw [sanitized, Option.getD_some, Option.getD_some]
    split
    · next hnil =>
      rw [List.map_eq_nil_iff, String.toList_eq_nil_iff] at hnil
      rw [if_pos hnil]
      rfl
    · next hcons =>
      rw [if_neg]
      rintro rfl
      exact hcons rfl

/-- A name for bytes with a checksum: one plain name in a directory, which ends in a dash and 32 digits. -/
structure IsNameFor (sum handle : String) : Prop where
  ne_empty : handle ≠ ""
  plain : ∀ c ∈ handle.toList, IsPlain c
  not_separator : ∀ c ∈ handle.toList, c ≠ '/' ∧ c ≠ '\\'
  not_dot : ∀ c ∈ handle.toList, c ≠ '.'
  ending : handle.toList.drop (handle.toList.length - 33) = '-' :: sum.toList.take 32

private theorem IsChecksum.suffixLength_le (h : IsChecksum sum) : suffixLength ≤ sum.toList.length := by
  rw [h.length]
  decide

private theorem isNameFor_make (hint : Option String) (hsum : IsChecksum sum) : IsNameFor sum (make hint sum) := by
  have hallowed := isAllowed_of_mem hint fun c hc => (hsum.digits c hc).isAllowed
  have hclear : ∀ d, isAllowed d = false → ∀ c ∈ (make hint sum).toList, c ≠ d := by
    rintro d hd c hc rfl
    rw [hallowed c hc] at hd
    cases hd
  have hending : ('-' :: sum.toList.take suffixLength).length = 33 := by
    rw [List.length_cons, List.length_take_of_le hsum.suffixLength_le, suffixLength]
  refine ⟨make_ne_empty hint sum, fun c hc => isAllowed_iff.1 (hallowed c hc), fun c hc => ⟨?_, ?_⟩, ?_, ?_⟩
  · exact hclear '/' (by decide) c hc
  · exact hclear '\\' (by decide) c hc
  · exact hclear '.' (by decide)
  · rw [make, String.toList_ofList, List.length_append, hending, Nat.add_sub_cancel, List.drop_left, suffixLength]

/-- The hint that a payload is stored with is that of its block. -/
theorem hint_storeRequest (password : Option String) (block : Block) (packed : Compression.Packed) :
    (Service.storeRequest password block packed).hint = some (blockHint block.number) := rfl

/-- Whatever the hint, a handle is a plain name that ends in digits of the checksum. Two of them are the same only if
their hints, as they stand in handles, and those digits are. Payloads of blocks of different numbers never share one. -/
theorem made_handles_are_plain_and_distinct :
    (∀ hint sum, IsChecksum sum → IsNameFor sum (make hint sum)) ∧
    (∀ hint other sum sum', IsChecksum sum → IsChecksum sum' → (make hint sum = make other sum' ↔
      sanitized hint = sanitized other ∧ sum.toList.take 32 = sum'.toList.take 32)) ∧
    (∀ hint, sanitized hint = if hint.getD "" = "" then "blob".toList
      else (hint.getD "").toList.map fun c => if isAllowed c then c else '_') ∧
    (∀ c, isAllowed c = true ↔ IsPlain c) ∧
    ∀ (block block' : Block) password password' packed packed' sum sum', block.number ≠ block'.number →
      IsChecksum sum → IsChecksum sum' →
      make (Service.storeRequest password block packed).hint sum ≠
        make (Service.storeRequest password' block' packed').hint sum' := by
  refine ⟨fun hint sum => isNameFor_make hint, fun hint other sum sum' hsum hsum' => ?_, sanitized_eq,
    fun c => isAllowed_iff, fun block block' password password' packed packed' sum sum' hne hsum hsum' h => ?_⟩
  · exact make_eq_make_iff hsum.suffixLength_le hsum'.suffixLength_le
  · rw [hint_storeRequest, hint_storeRequest] at h
    exact hne (number_eq_of_make_eq hsum.suffixLength_le hsum'.suffixLength_le h)

def repeated (digit : Char) : String := String.ofList (List.replicate 64 digit)

private theorem isChecksum_repeated {digit : Char} (h : IsHexDigit digit) : IsChecksum (repeated digit) where
  length := by rw [repeated, String.toList_ofList, List.length_replicate]
  digits c hc := by
    rw [repeated, String.toList_ofList] at hc
    rwa [List.eq_of_mem_replicate hc]

/-- A hint that would lead out of a directory is made harmless, and one that looks like the end of a handle confuses
nobody. -/
theorem handle_of_dots_is_plain :
    IsNameFor (repeated 'a') (make (some "../x y") (repeated 'a')) ∧
    make (some "../x y") (repeated 'a') = "___x_y-aaaaaaaaaaaaaaaaaaaaaaaaaaaaaaaa" ∧
    make (some "blob-aa") (repeated 'a') ≠ make none (repeated 'a') ∧
    make (Service.storeRequest none default (Compression.raw [])).hint (repeated 'a') ≠
      make (Service.storeRequest none { (default : Block) with number := 1 } (Compression.raw [])).hint
        (repeated 'A') := by
  obtain ⟨hname, hsame, -, -, hblocks⟩ := made_handles_are_plain_and_distinct
  have hsum : IsChecksum (repeated 'a') := isChecksum_repeated (by decide)
  have hcapital : IsChecksum (repeated 'A') := isChecksum_repeated (by decide)
  refine ⟨hname _ _ hsum, by decide, ?_, hblocks _ _ _ _ _ _ _ _ (by decide) hsum hcapital⟩
  rw [ne_eq, hsame _ _ _ _ hsum hsum]
  exact fun h => absurd h.1 (by decide)

end TieredLedger.Handle
