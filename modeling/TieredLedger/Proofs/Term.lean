import Mathlib.Data.List.DropRight
import TieredLedger.Keyword
import TieredLedger.Proofs.Text.Lowercase

/-! Normal forms of terms are normal already. -/
namespace TieredLedger

namespace Text

/-- A text with no white space at its ends. -/
def Trim (cs : List Char) : Prop :=
  (∀ c, cs.head? = some c → isBlank c = false) ∧ ∀ c, cs.getLast? = some c → isBlank c = false

private theorem trimmed_eq (cs : List Char) : trimmed cs = (cs.dropWhile isBlank).rdropWhile isBlank := rfl

private theorem trimmed_of_trim {cs : List Char} (h : Trim cs) : trimmed cs = cs := by
  have hfront : cs.dropWhile isBlank = cs := by
    cases cs with
    | nil => rfl
    | cons c rest => rw [List.dropWhile_cons, h.1 c rfl]; rfl
  rw [trimmed_eq, hfront, List.rdropWhile_eq_self_iff]
  intro hne hblank
  rw [h.2 _ (List.getLast?_eq_some_getLast hne)] at hblank
  cases hblank

private theorem trim_trimmed (cs : List Char) : Trim (trimmed cs) := by
  rw [trimmed_eq]
  refine ⟨fun c hc => ?_, fun c hc => ?_⟩
  · obtain ⟨rest, hrest⟩ := List.rdropWhile_prefix isBlank (cs.dropWhile isBlank)
    have hnot := List.head?_dropWhile_not isBlank cs
    rw [← hrest, List.head?_append, hc] at hnot
    simpa using hnot
  · have hne : (cs.dropWhile isBlank).rdropWhile isBlank ≠ [] := by
      intro hnil
      rw [hnil] at hc
      cases hc
    rw [List.getLast?_eq_some_getLast hne, Option.some.injEq] at hc
    simpa [hc] using List.rdropWhile_last_not isBlank _ hne

private def lowerAt (before : List Char) (c : Char) (rest : List Char) : List Char :=
  if c = 'Σ' then [lowerSigma before rest] else lowerChar c

private theorem lowerAt_ne_nil (before : List Char) (c : Char) (rest : List Char) : lowerAt before c rest ≠ [] := by
  rw [lowerAt]
  split
  · simp
  · exact lowerChar_ne_nil c

private theorem lowerAt_not_blank {before rest : List Char} {c : Char} (hc : isBlank c = false) :
    ∀ d ∈ lowerAt before c rest, isBlank d = false := by
  intro d hd
  rw [lowerAt] at hd
  split at hd
  · rw [List.mem_singleton] at hd
    subst hd
    exact (lowerSigma_facts before rest).2
  · have := (lowerChar_facts c d hd).2
    rw [hc] at this
    simpa using this

private theorem lowerFrom_getLast {before cs : List Char} (h : ∀ c, cs.getLast? = some c → isBlank c = false) :
    ∀ d, (lowerFrom before cs).getLast? = some d → isBlank d = false := by
  induction cs generalizing before with
  | nil => simp [lowerFrom]
  | cons c rest ih =>
    intro d hd
    change (lowerAt before c rest ++ lowerFrom (c :: before) rest).getLast? = some d at hd
    cases rest with
    | nil =>
      rw [lowerFrom, List.append_nil] at hd
      exact lowerAt_not_blank (h c rfl) d (List.mem_of_getLast? hd)
    | cons e rest =>
      have hne : lowerFrom (c :: before) (e :: rest) ≠ [] :=
        List.append_ne_nil_of_left_ne_nil (lowerAt_ne_nil (c :: before) e rest) _
      rw [List.getLast?_append_of_ne_nil _ hne] at hd
      exact ih (fun c hc => h c (by rwa [List.getLast?_cons_cons])) d hd

private theorem trim_lowered {cs : List Char} (h : Trim cs) : Trim (lowered cs) := by
  refine ⟨?_, lowerFrom_getLast h.2⟩
  cases cs with
  | nil => simp [lowered, lowerFrom]
  | cons c rest =>
    intro d hd
    change (lowerAt [] c rest ++ lowerFrom [c] rest).head? = some d at hd
    rw [List.head?_append_of_ne_nil _ (lowerAt_ne_nil [] c rest)] at hd
    exact lowerAt_not_blank (h.1 c rfl) d (List.mem_of_head? hd)

end Text

namespace Term

/-- Normal forms are in lower case. -/
theorem lowercase_normal (term : String) : Text.lowercase (normal term) = normal term :=
  Text.lowercase_lowercase _

/-- The normal form of a normal form is that form. -/
theorem normal_normal (term : String) : normal (normal term) = normal term := by
  have htrim : Text.trim (normal term) = normal term := by
    rw [normal, Text.lowercase, Text.trim, Text.trim, String.toList_ofList, String.toList_ofList,
      Text.trimmed_of_trim (Text.trim_lowered (Text.trim_trimmed _))]
  rw [normal, htrim, lowercase_normal]

end Term

end TieredLedger
