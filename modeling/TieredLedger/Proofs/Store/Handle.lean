import Std.Data.String.ToNat
import TieredLedger.Proofs.Bytes
import TieredLedger.Store.Interface

/-! Handles tell their hints and checksums apart, so that two blocks never share one. They are names of files. -/
namespace TieredLedger.Handle

private theorem sanitized_of_isAllowed {hint : String} (hne : hint ≠ "") (h : ∀ c ∈ hint.toList, isAllowed c = true) :
    sanitized (some hint) = hint.toList := by
  have hmap : (hint.toList.map fun c => if isAllowed c then c else '_') = hint.toList := by
    have hfixed : (hint.toList.map fun c => if isAllowed c then c else '_') = hint.toList.map id :=
      List.map_congr_left fun c hc => if_pos (h c hc)
    rw [hfixed, List.map_id]
  rw [sanitized, Option.getD_some, hmap]
  split
  · next hnil => exact absurd (String.toList_eq_nil_iff.1 hnil) hne
  · rfl

/-- A handle tells its hint, once that is in allowed characters, and the digits of its checksum. -/
theorem make_eq_make_iff {hint other : Option String} {c d : String} (hc : suffixLength ≤ c.toList.length)
    (hd : suffixLength ≤ d.toList.length) : make hint c = make other d ↔
      sanitized hint = sanitized other ∧ c.toList.take suffixLength = d.toList.take suffixLength := by
  rw [make, make, String.ofList_inj]
  constructor
  · intro h
    have hlength : ('-' :: c.toList.take suffixLength).length = ('-' :: d.toList.take suffixLength).length := by
      rw [List.length_cons, List.length_cons, List.length_take_of_le hc, List.length_take_of_le hd]
    obtain ⟨hhint, hdigits⟩ := List.append_inj' h hlength
    exact ⟨hhint, (List.cons.inj hdigits).2⟩
  · rintro ⟨hhint, hdigits⟩
    rw [hhint, hdigits]

def blockHint (number : UInt64) : String := s!"block-{number}"

private theorem toList_blockHint (number : UInt64) :
    (blockHint number).toList = "block-".toList ++ Nat.toDigits 10 number.toNat := by
  have htext : blockHint number = "block-" ++ number.toNat.repr := rfl
  rw [htext, String.toList_append, Nat.toList_repr]

private theorem sanitized_blockHint (number : UInt64) :
    sanitized (some (blockHint number)) = (blockHint number).toList := by
  refine sanitized_of_isAllowed ?_ fun c hc => ?_
  · intro hempty
    have hlist := toList_blockHint number
    rw [hempty] at hlist
    cases hlist
  · rw [toList_blockHint, List.mem_append] at hc
    rcases hc with hc | hc
    · exact List.all_eq_true.1 (by decide) c hc
    · have hdigit := Nat.isDigit_of_mem_toDigits (by decide) (by decide) hc
      simp [isAllowed, Char.isAlphanum, hdigit]

/-- Blocks of different numbers have different handles, whatever is stored for them. -/
theorem number_eq_of_make_eq {m n : UInt64} {c d : String} (hc : suffixLength ≤ c.toList.length)
    (hd : suffixLength ≤ d.toList.length) (h : make (some (blockHint m)) c = make (some (blockHint n)) d) : m = n := by
  have hhint := ((make_eq_make_iff hc hd).1 h).1
  rw [sanitized_blockHint, sanitized_blockHint, toList_blockHint, toList_blockHint, List.append_cancel_left_eq] at hhint
  have hrepr : m.toNat.repr = n.toNat.repr := by
    rw [← String.toList_inj, Nat.toList_repr, Nat.toList_repr, hhint]
  exact UInt64.toNat_inj.1 (Nat.repr_injective hrepr)

/-- A handle that is one name in a directory. -/
def IsName (handle : String) : Prop := ∀ c ∈ handle.toList, c ≠ '/'

instance (handle : String) : Decidable (IsName handle) :=
  decidable_of_iff ('/' ∉ handle.toList) List.forall_mem_ne'.symm

private theorem isAllowed_of_mem_sanitized (hint : Option String) : ∀ c ∈ sanitized hint, isAllowed c = true := by
  intro c hc
  rw [sanitized] at hc
  split at hc
  · exact List.all_eq_true.1 (by decide) c hc
  · obtain ⟨d, -, rfl⟩ := List.mem_map.1 hc
    split
    · assumption
    · decide

/-- A handle keeps to the characters that may stand in it if its checksum does. -/
theorem isAllowed_of_mem (hint : Option String) {sum : String} (hsum : ∀ c ∈ sum.toList, isAllowed c = true) :
    ∀ c ∈ (make hint sum).toList, isAllowed c = true := by
  intro c hc
  rw [make, String.toList_ofList, List.mem_append, List.mem_cons] at hc
  rcases hc with hc | rfl | hc
  · exact isAllowed_of_mem_sanitized hint c hc
  · decide
  · exact hsum c (List.mem_of_mem_take hc)

/-- A handle that is made has allowed characters only. -/
theorem isAllowed_of_mem_make (hint : Option String) (bs : Bytes) :
    ∀ c ∈ (make hint (checksum bs)).toList, isAllowed c = true := by
  refine isAllowed_of_mem hint fun c hc => ?_
  have hdigit := Bytes.mem_hexDigits_of_mem_hex hc
  exact List.all_eq_true.1 (by decide) c hdigit

/-- A store makes handles that are names. -/
theorem isName_make (hint : Option String) (bs : Bytes) : IsName (make hint (checksum bs)) := by
  rintro c hc rfl
  exact absurd (isAllowed_of_mem_make hint bs '/' hc) (by decide)

/-- A handle that is made is not empty. -/
theorem make_ne_empty (hint : Option String) (checksum : String) : make hint checksum ≠ "" := by
  rw [make, ne_eq, ← String.toList_eq_nil_iff, String.toList_ofList]
  exact List.append_ne_nil_of_right_ne_nil _ (List.cons_ne_nil _ _)

/-- A checksum is long enough for the end of a handle. -/
theorem suffixLength_le_checksum (bs : Bytes) : suffixLength ≤ (checksum bs).toList.length := by
  rw [checksum, Sha256.length_hexDigest]
  decide

end TieredLedger.Handle
