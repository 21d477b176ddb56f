import Mathlib.Data.Bool.AllAny
import Mathlib.Data.String.Basic
import Mathlib.Tactic.IntervalCases
import TieredLedger.Bytes

/-! The bytes of texts, one character after another. Texts, hexadecimal digits and words are read back from their bytes,
and UTF-8 keeps the order of texts. -/
namespace TieredLedger.Bytes

def hexDigits : List Char := "0123456789abcdef".toList

private theorem hexDigit_facts {n : Nat} (h : n < 16) : hexDigit n ∈ hexDigits ∧ hexValue? (hexDigit n) = some n := by
  interval_cases n <;> decide

/-- Hexadecimal text is made of its sixteen digits alone. -/
theorem mem_hexDigits_of_mem_hex {bs : Bytes} {c : Char} (h : c ∈ (hex bs).toList) : c ∈ hexDigits := by
  rw [hex, String.toList_ofList, List.mem_flatMap] at h
  obtain ⟨b, _, hc⟩ := h
  have hb := b.toNat_lt
  rw [hexPair, List.mem_cons, List.mem_singleton] at hc
  rcases hc with rfl | rfl
  · exact (hexDigit_facts (by omega)).1
  · exact (hexDigit_facts (by omega)).1

private theorem ofHexDigits?_hexPairs (bs : Bytes) : ofHexDigits? (bs.flatMap hexPair) = some bs := by
  induction bs with
  | nil => rfl
  | cons b bs ih =>
    have hb := b.toNat_lt
    have hhigh := (hexDigit_facts (n := b.toNat / 16) (by omega)).2
    have hlow := (hexDigit_facts (n := b.toNat % 16) (by omega)).2
    have hbyte : UInt8.ofNat (16 * (b.toNat / 16) + b.toNat % 16) = b := by
      rw [Nat.div_add_mod, UInt8.ofNat_toNat]
    rw [List.flatMap_cons, hexPair, List.cons_append, List.cons_append, List.nil_append, ofHexDigits?, hhigh, hlow, ih]
    exact congrArg (fun b => some (b :: bs)) hbyte

/-- Hexadecimal text stands for the bytes it was made of. -/
theorem ofHex?_hex (bs : Bytes) : ofHex? (hex bs) = some bs := by
  rw [ofHex?, hex, String.toList_ofList, ofHexDigits?_hexPairs]

/-- Different bytes have different hexadecimal texts. -/
theorem hex_inj {as bs : Bytes} : hex as = hex bs ↔ as = bs := by
  refine ⟨fun h => ?_, congrArg hex⟩
  have hread := ofHex?_hex as
  rw [h, ofHex?_hex, Option.some.injEq] at hread
  exact hread.symm

theorem ofText_ofList (cs : List Char) : ofText (String.ofList cs) = cs.flatMap String.utf8EncodeChar := by
  have hlist : (String.ofList cs).toByteArray = (cs.flatMap String.utf8EncodeChar).toByteArray := String.toByteArray_ofList
  rw [ofText, String.toUTF8, hlist, List.toList_data_toByteArray]

/-- The form of a code point in one, two, three or four bytes. -/
theorem encodeChar_cases (c : Char) : let n := c.val.toNat
    (n < 0x80 ∧ String.utf8EncodeChar c = [UInt8.ofNat n]) ∨
    (0x80 ≤ n ∧ n < 0x800 ∧ String.utf8EncodeChar c = [UInt8.ofNat (n / 64 + 192), UInt8.ofNat (n % 64 + 128)]) ∨
    (0x800 ≤ n ∧ n < 0x10000 ∧ String.utf8EncodeChar c =
      [UInt8.ofNat (n / 4096 + 224), UInt8.ofNat (n / 64 % 64 + 128), UInt8.ofNat (n % 64 + 128)]) ∨
    (0x10000 ≤ n ∧ n < 0x110000 ∧ String.utf8EncodeChar c =
      [UInt8.ofNat (n / 262144 + 240), UInt8.ofNat (n / 4096 % 64 + 128), UInt8.ofNat (n / 64 % 64 + 128),
        UInt8.ofNat (n % 64 + 128)]) := by
  intro n
  have hn : n < 0x110000 := by
    rcases c.valid with h | h
    · exact h.trans (by decide)
    · exact h.2
  rw [String.utf8EncodeChar]
  rcases Nat.lt_or_ge n 0x80 with h1 | h1
  · left
    exact ⟨h1, if_pos (Nat.le_of_lt_succ h1)⟩
  right
  rw [if_neg (Nat.not_le.2 h1)]
  rcases Nat.lt_or_ge n 0x800 with h2 | h2
  · left
    rw [if_pos (Nat.le_of_lt_succ h2), Nat.mod_eq_of_lt (Nat.div_lt_of_lt_mul h2)]
    exact ⟨h1, h2, rfl⟩
  right
  rw [if_neg (Nat.not_le.2 h2)]
  rcases Nat.lt_or_ge n 0x10000 with h3 | h3
  · left
    rw [if_pos (Nat.le_of_lt_succ h3), Nat.mod_eq_of_lt (Nat.div_lt_of_lt_mul h3)]
    exact ⟨h2, h3, rfl⟩
  · right
    rw [if_neg (Nat.not_le.2 h3), Nat.mod_eq_of_lt (Nat.div_lt_of_lt_mul (hn.trans (by decide)))]
    exact ⟨h3, hn, rfl⟩

/-- Every character takes a byte at least. -/
theorem encodeChar_ne_nil (c : Char) : String.utf8EncodeChar c ≠ [] := by
  intro h
  have hsize := String.length_utf8EncodeChar c
  rw [h] at hsize
  exact Nat.ne_of_lt c.utf8Size_pos hsize

private theorem hexDigit_bytes : ∀ c ∈ hexDigits,
    (String.utf8EncodeChar c).length = 1 ∧ ∀ b ∈ String.utf8EncodeChar c, (48 : UInt8) ≤ b := by
  have hall : ∀ c ∈ hexDigits, (String.utf8EncodeChar c).length = 1 ∧
      (String.utf8EncodeChar c).all (fun b => (48 : UInt8) ≤ b) = true :=
    List.all_iff_forall_prop.1 (by decide)
  exact fun c hc => (hall c hc).imp_right List.all_iff_forall_prop.1

private theorem length_hexDigits_bytes {cs : List Char} (h : ∀ c ∈ cs, c ∈ hexDigits) :
    (cs.flatMap String.utf8EncodeChar).length = cs.length := by
  induction cs with
  | nil => rfl
  | cons c cs ih =>
    rw [List.flatMap_cons, List.length_append, (hexDigit_bytes c (h c List.mem_cons_self)).1,
      ih fun d hd => h d (List.mem_cons_of_mem c hd), List.length_cons, Nat.add_comm]

/-- Hexadecimal text has one byte a digit, none of them small. -/
theorem ofText_hex (bs : Bytes) :
    (ofText (hex bs)).length = 2 * bs.length ∧ ∀ b ∈ ofText (hex bs), (48 : UInt8) ≤ b := by
  have hdigits : ∀ c ∈ bs.flatMap hexPair, c ∈ hexDigits := fun c hc =>
    mem_hexDigits_of_mem_hex (by rwa [hex, String.toList_ofList])
  rw [hex, ofText_ofList, length_hexDigits_bytes hdigits, length_flatMap_hexPair]
  refine ⟨rfl, fun b hb => ?_⟩
  obtain ⟨c, hc, hb⟩ := List.mem_flatMap.1 hb
  exact (hexDigit_bytes c (hdigits c hc)).2 b hb

/-- A word is told by its bytes. -/
theorem be64_inj {v w : UInt64} : be64 v = be64 w ↔ v = w := by
  refine ⟨fun h => ?_, congrArg be64⟩
  simp only [be64, List.cons.injEq, ← UInt8.toNat_inj, UInt64.toNat_toUInt8, UInt64.toNat_shiftRight,
    UInt64.reduceToNat, Nat.reduceMod, Nat.shiftRight_eq_div_pow, Nat.reducePow] at h
  have hv := v.toNat_lt
  have hw := w.toNat_lt
  rw [← UInt64.toNat_inj]
  omega

private theorem cons_lt {m n : Nat} {xs ys : Bytes} (hn : n < 256) (hle : m ≤ n) (h : m = n → xs < ys) :
    UInt8.ofNat m :: xs < UInt8.ofNat n :: ys := by
  rw [List.cons_lt_cons_iff]
  rcases Nat.lt_or_eq_of_le hle with hlt | rfl
  · left
    rw [UInt8.lt_iff_toNat_lt, UInt8.toNat_ofNat_of_lt' hn, UInt8.toNat_ofNat_of_lt' (hlt.trans hn)]
    exact hlt
  · exact Or.inr ⟨rfl, h rfl⟩

private theorem encodeChar_lt {c d : Char} (h : c < d) (xs ys : Bytes) :
    String.utf8EncodeChar c ++ xs < String.utf8EncodeChar d ++ ys := by
  have hcd : c.val.toNat < d.val.toNat := h
  have hc := encodeChar_cases c
  have hd := encodeChar_cases d
  generalize c.val.toNat = m at *
  generalize d.val.toNat = n at *
  obtain ⟨hm, hc⟩ | ⟨hm, hm', hc⟩ | ⟨hm, hm', hc⟩ | ⟨hm, hm', hc⟩ := hc <;>
  obtain ⟨hn, hd⟩ | ⟨hn, hn', hd⟩ | ⟨hn, hn', hd⟩ | ⟨hn, hn', hd⟩ := hd <;>
  first
  | omega
  | rw [hc, hd]
    simp only [List.cons_append, List.nil_append]
    repeat refine cons_lt (by omega) (by omega) fun _ => ?_
    omega

/-- Texts are ordered as their bytes are. -/
theorem ofText_lt_ofText {s t : String} (h : s < t) : ofText s < ofText t := by
  rw [String.lt_iff_toList_lt] at h
  rw [← String.ofList_toList (s := s), ← String.ofList_toList (s := t), ofText_ofList, ofText_ofList]
  generalize s.toList = cs at h
  generalize t.toList = ds at h
  induction cs generalizing ds with
  | nil =>
    cases ds with
    | nil => cases h
    | cons d ds =>
      obtain ⟨b, bs, hbytes⟩ := List.exists_cons_of_ne_nil (encodeChar_ne_nil d)
      rw [List.flatMap_nil, List.flatMap_cons, hbytes]
      exact List.nil_lt_cons _ _
  | cons c cs ih =>
    cases ds with
    | nil => cases h
    | cons d ds =>
      rw [List.flatMap_cons, List.flatMap_cons]
      rcases List.cons_lt_cons_iff.1 h with hchar | ⟨rfl, hrest⟩
      · exact encodeChar_lt hchar _ _
      · exact List.append_left_lt (ih ds hrest)

end TieredLedger.Bytes
