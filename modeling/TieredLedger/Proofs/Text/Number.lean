import Mathlib.Data.List.Basic
import Mathlib.Data.List.Induction
import Mathlib.Data.Nat.Digits.Defs
import Std.Data.String.ToNat
import TieredLedger.Text.Number

/-! Decimal digits are read back, with zeros in front or without, and which texts are read as numbers at all. -/
namespace TieredLedger.Text

variable {n : Nat} {ds rest : List Char}

/-- A number is written in digits. -/
theorem isDigit_of_mem_toDigits {c : Char} (h : c ∈ Nat.toDigits 10 n) : c.isDigit = true :=
  Nat.isDigit_of_mem_toDigits (by decide) (by decide) h

/-- A number comes back from its digits. -/
theorem ofDigits_toDigits (n : Nat) : ofDigits (Nat.toDigits 10 n) = n := by
  have hread := Nat.ofDigitChars_ten_toDigits (n := n)
  have hstep : (fun (n : Nat) (c : Char) => 10 * n + (c.toNat - '0'.toNat)) = fun n c => n * 10 + (c.toNat - 48) := by
    funext n c
    rw [Nat.mul_comm]
    rfl
  rwa [Nat.ofDigitChars, hstep] at hread

/-- Zeros in front do not count. -/
theorem ofDigits_zeros_append (count : Nat) (ds : List Char) :
    ofDigits (List.replicate count '0' ++ ds) = ofDigits ds := by
  induction count with
  | zero => rfl
  | succ count ih =>
    rw [List.replicate_succ, List.cons_append]
    exact ih

/-- Only zero is written with a zero in front. -/
theorem head?_toDigits_ne_zero (h : n ≠ 0) : (Nat.toDigits 10 n).head? ≠ some '0' := by
  induction n using Nat.strongRecOn with
  | ind n ih =>
    by_cases hsmall : n < 10
    · rw [Nat.toDigits_of_lt_base hsmall]
      have hdigit : ∀ m < 10, m ≠ 0 → [m.digitChar].head? ≠ some '0' := by decide
      exact hdigit n hsmall h
    · rw [Nat.toDigits_of_base_le (by decide) (Nat.le_of_not_lt hsmall),
        List.head?_append_of_ne_nil _ Nat.toDigits_ne_nil]
      exact ih (n / 10) (by omega) (by omega)

def NoDigitNext (rest : List Char) : Prop := ∀ c, rest.head? = some c → c.isDigit = false

theorem noDigitNext_nil : NoDigitNext [] := by
  intro c hc
  cases hc

theorem noDigitNext_cons {c : Char} (h : c.isDigit = false) : NoDigitNext (c :: rest) := by
  intro d hd
  cases hd
  exact h

/-- Reading digits stops where they end. -/
theorem takeWhile_isDigit_append (hds : ∀ c ∈ ds, c.isDigit = true) (hrest : NoDigitNext rest) :
    (ds ++ rest).takeWhile Char.isDigit = ds := by
  have hend : rest.takeWhile Char.isDigit = [] := by
    cases rest with
    | nil => rfl
    | cons c rest => rw [List.takeWhile_cons_of_neg (by rw [hrest c rfl]; exact Bool.false_ne_true)]
  rw [List.takeWhile_append_of_pos hds, hend, List.append_nil]

/-- A text spells a number: by digits, one at least, with a plus sign in front if need be. -/
def Spells (s : String) (n : Nat) : Prop :=
  ∃ digits, (s.toList = digits ∨ s.toList = '+' :: digits) ∧ digits ≠ [] ∧ (∀ c ∈ digits, c.isDigit = true) ∧
    Nat.ofDigits 10 (digits.reverse.map fun c => c.toNat - '0'.toNat) = n

private theorem ofDigits_eq (ds : List Char) :
    ofDigits ds = Nat.ofDigits 10 (ds.reverse.map fun c => c.toNat - '0'.toNat) := by
  induction ds using List.reverseRecOn with
  | nil => rfl
  | append_singleton ds c ih =>
    rw [List.reverse_concat, List.map_cons, Nat.ofDigits_cons, ← ih, ofDigits, ofDigits, List.foldl_concat,
      Nat.add_comm, Nat.mul_comm]
    rfl

private theorem dropPlus_eq_iff (hds : ∀ c ∈ ds, c.isDigit = true) {cs : List Char} :
    dropPlus cs = ds ↔ cs = ds ∨ cs = '+' :: ds := by
  match cs with
  | [] => simp [dropPlus]
  | c :: rest =>
    by_cases hplus : c = '+'
    · subst hplus
      have hne : '+' :: rest ≠ ds := by
        rintro rfl
        exact absurd (hds '+' List.mem_cons_self) (by decide)
      simp [dropPlus, hne]
    · have hkept : dropPlus (c :: rest) = c :: rest := by
        rw [dropPlus]
        rintro _ heq
        exact hplus (List.cons.inj heq).1
      simp [hkept, hplus]

/-- A text is read as a number below a bound if it spells that number. -/
theorem number?_eq_some_iff {bound : Nat} {s : String} : number? bound s = some n ↔ Spells s n ∧ n < bound := by
  rw [number?]
  constructor
  · intro h
    split at h
    · cases h
    · next haccepted =>
      obtain rfl := Option.some.inj h
      simp only [not_or, List.isEmpty_iff, Bool.not_eq_true', Bool.not_eq_false, List.all_eq_true, Nat.not_le] at haccepted
      obtain ⟨hgiven, hdigits, hbound⟩ := haccepted
      exact ⟨⟨_, (dropPlus_eq_iff hdigits).1 rfl, hgiven, hdigits, (ofDigits_eq _).symm⟩, hbound⟩
  · rintro ⟨⟨digits, hform, hgiven, hdigits, rfl⟩, hbound⟩
    rw [(dropPlus_eq_iff hdigits).2 hform, ofDigits_eq, if_neg]
    simp only [not_or, List.isEmpty_iff, Bool.not_eq_true', Bool.not_eq_false, List.all_eq_true, Nat.not_le]
    exact ⟨hgiven, hdigits, hbound⟩

end TieredLedger.Text
