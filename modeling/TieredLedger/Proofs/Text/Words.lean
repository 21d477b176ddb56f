import Mathlib.Data.List.Basic
import TieredLedger.Text.Blank

/-! Cutting a text: the pieces of two texts with a separator between them are the pieces of the one and those of the
other, and so are their words. Words joined by blanks are found again. -/
namespace TieredLedger.Text

variable {p : Char → Bool}

theorem pieces_of_clear {w : List Char} (h : ∀ c ∈ w, p c = false) : pieces p w = [w] := by
  induction w with
  | nil => rfl
  | cons c w ih =>
    rw [pieces, h c List.mem_cons_self, ih fun d hd => h d (List.mem_cons_of_mem c hd)]
    rfl

/-- A separator between two texts separates their pieces. -/
theorem pieces_append_cons (xs : List Char) {c : Char} (hc : p c = true) (ys : List Char) :
    pieces p (xs ++ c :: ys) = pieces p xs ++ pieces p ys := by
  induction xs with
  | nil => rw [List.nil_append, pieces, pieces, if_pos hc, List.singleton_append]
  | cons d xs ih =>
    rw [List.cons_append, pieces, pieces, ih]
    split
    · rw [List.cons_append]
    · cases hxs : pieces p xs with
      | nil => exact absurd hxs (pieces_ne_nil p xs)
      | cons piece others => rfl

theorem pieces_append_separator {w : List Char} {c : Char} (rest : List Char) (h : ∀ d ∈ w, p d = false)
    (hc : p c = true) : pieces p (w ++ c :: rest) = w :: pieces p rest := by
  rw [pieces_append_cons w hc, pieces_of_clear h, List.singleton_append]

/-- What follows without a separator makes the last piece longer. -/
theorem pieces_append_clear (xs : List Char) {w : List Char} (hw : ∀ c ∈ w, p c = false) :
    ∃ before last, pieces p xs = before ++ [last] ∧ pieces p (xs ++ w) = before ++ [last ++ w] := by
  induction xs with
  | nil => exact ⟨[], [], rfl, pieces_of_clear hw⟩
  | cons c xs ih =>
    obtain ⟨before, last, hxs, happend⟩ := ih
    rw [List.cons_append, pieces, pieces, hxs, happend]
    by_cases hc : p c = true
    · rw [if_pos hc, if_pos hc]
      exact ⟨[] :: before, last, rfl, rfl⟩
    · rw [if_neg hc, if_neg hc]
      cases before with
      | nil => exact ⟨[], c :: last, rfl, rfl⟩
      | cons piece before => exact ⟨(c :: piece) :: before, last, rfl, rfl⟩

private theorem clear_of_mem_pieces {cs w : List Char} (h : w ∈ pieces p cs) : ∀ c ∈ w, p c = false := by
  intro c hc
  have hmem : c ∈ (pieces p cs).flatten := List.mem_flatten.2 ⟨w, h, hc⟩
  rw [flatten_pieces, List.mem_filter, Bool.not_eq_true'] at hmem
  exact hmem.2

def IsWord (s : String) : Prop := s ≠ "" ∧ hasBlank s = false

instance (s : String) : Decidable (IsWord s) := inferInstanceAs (Decidable (_ ∧ _))

/-- A word has characters, and none of them is blank. -/
theorem isWord_iff {s : String} : IsWord s ↔ s.toList ≠ [] ∧ ∀ c ∈ s.toList, isBlank c = false := by
  rw [IsWord, hasBlank, ne_eq, ne_eq, String.toList_eq_nil_iff]
  simp

/-- A word is its only word. -/
theorem words_of_isWord {s : String} (h : IsWord s) : words s = [s] := by
  obtain ⟨hne, hclear⟩ := isWord_iff.1 h
  rw [words, wordsOf, pieces_of_clear hclear]
  simp [hne]

/-- The words of a text are words. -/
theorem isWord_of_mem_words {s w : String} (h : w ∈ words s) : IsWord w := by
  obtain ⟨cs, hcs, rfl⟩ := List.mem_map.1 h
  obtain ⟨hpiece, hne⟩ := List.mem_filter.1 hcs
  rw [isWord_iff, String.toList_ofList]
  exact ⟨by simpa using hne, clear_of_mem_pieces hpiece⟩

/-- A word has no words but itself, so taking words of words gives no more. -/
theorem flatMap_words_words (s : String) : (words s).flatMap words = words s := by
  calc (words s).flatMap words = (words s).flatMap fun w => [w] :=
        List.flatMap_congr fun _ hw => words_of_isWord (isWord_of_mem_words hw)
    _ = words s := List.flatMap_singleton' _

private theorem words_append_blank (s t : String) : words (s ++ " " ++ t) = words s ++ words t := by
  have hlist : (s ++ " " ++ t).toList = s.toList ++ ' ' :: t.toList := by simp
  rw [words, wordsOf, hlist, pieces_append_cons _ (by decide), List.filter_append, List.map_append]
  rfl

/-- The words of texts joined by blanks are the words of each. -/
theorem words_intercalate_eq_flatMap (ts : List String) : words (String.intercalate " " ts) = ts.flatMap words := by
  induction ts with
  | nil => rfl
  | cons t ts ih =>
    cases ts with
    | nil => rw [String.intercalate_singleton, List.flatMap_singleton]
    | cons u ts =>
      rw [String.intercalate_cons_cons, words_append_blank, ih]
      exact List.flatMap_cons.symm

/-- Words joined by blanks are found again by splitting. -/
theorem words_intercalate {ts : List String} (h : ∀ t ∈ ts, IsWord t) : words (String.intercalate " " ts) = ts := by
  calc words (String.intercalate " " ts) = ts.flatMap words := words_intercalate_eq_flatMap ts
    _ = ts.flatMap fun t => [t] := List.flatMap_congr fun t ht => words_of_isWord (h t ht)
    _ = ts := List.flatMap_singleton' ts

end TieredLedger.Text
