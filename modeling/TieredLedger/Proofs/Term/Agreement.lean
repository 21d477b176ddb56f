import TieredLedger.Proofs.Text.Words
import TieredLedger.Proofs.Visibility
import TieredLedger.Keyword

/-! One normal form decides everywhere which terms are the same: in keywords, in visibility maps, and among the words of
a text that holds hidden terms. -/
namespace TieredLedger

namespace Text

private theorem trimmed_eq_nil_iff {cs : List Char} : trimmed cs = [] ↔ ∀ c ∈ cs, isBlank c = true := by
  have hfront : trimFront cs = [] ↔ ∀ c ∈ cs, isBlank c = true := List.dropWhile_eq_nil_iff
  rw [← hfront]
  constructor
  · intro h
    by_contra hne
    have hall : ∀ c ∈ trimFront cs, isBlank c = true := List.rdropWhile_eq_nil_iff.1 h
    have hfirst : isBlank ((trimFront cs).head hne) = false := List.head_dropWhile_not isBlank hne
    rw [hall _ (List.head_mem hne)] at hfirst
    cases hfirst
  · intro h
    rw [trimmed, h]
    rfl

private theorem lowered_eq_nil_iff {cs : List Char} : lowered cs = [] ↔ cs = [] := by
  constructor
  · intro h
    cases cs with
    | nil => rfl
    | cons c rest =>
      rw [lowered, lowerFrom, List.append_eq_nil_iff] at h
      split at h
      · exact absurd h.1 (List.cons_ne_nil _ _)
      · exact absurd h.1 (lowerChar_ne_nil c)
  · rintro rfl
    rfl

end Text

namespace Term

/-- A term of white space only. -/
def IsBlank (term : String) : Prop := ∀ c ∈ term.toList, Text.isBlank c = true

/-- A term that is the normal form of some term. -/
def IsNormal (term : String) : Prop := ∃ t, normal t = term

private theorem normal_eq_empty_iff {term : String} : normal term = "" ↔ IsBlank term := by
  rw [normal, Text.lowercase, Text.trim, String.toList_ofList, ← String.toList_eq_nil_iff, String.toList_ofList,
    Text.lowered_eq_nil_iff, Text.trimmed_eq_nil_iff, IsBlank]

private theorem IsNormal.lowercase {term : String} (h : IsNormal term) : Text.lowercase term = term := by
  obtain ⟨t, rfl⟩ := h
  exact lowercase_normal t

/-- Words that are normal forms are found again, as they are, in the text that they are joined to. -/
theorem lowercase_words_intercalate {terms : List String} (hword : ∀ t ∈ terms, Text.IsWord t)
    (hnormal : ∀ t ∈ terms, IsNormal t) :
    (Text.words (String.intercalate " " terms)).map Text.lowercase = terms := by
  calc (Text.words (String.intercalate " " terms)).map Text.lowercase
      = terms.map Text.lowercase := by rw [Text.words_intercalate hword]
    _ = terms.map id := List.map_congr_left fun t ht => (hnormal t ht).lowercase
    _ = terms := List.map_id terms

end Term

private theorem Keyword.matchesTerm_ofTerm {s t : String} :
    (ofTerm s).matchesTerm t = true ↔ Term.normal s = Term.normal t := by
  rw [ofTerm, matchesTerm, Term.lowercase_normal, beq_iff_eq]

namespace VisibilityMap

private theorem set_concat (m : VisibilityMap) (v : Visibility) (terms : List String) (term : String) :
    m.set v (terms ++ [term]) = (m.set v terms).setOne v term := by
  rw [set, set, List.foldl_append, List.foldl_cons, List.foldl_nil]

/-- The term that is listed last decides about the terms of its normal form, and about no others. -/
theorem visibilityOf_set_concat {s : String} (hs : ¬ Term.IsBlank s) (m : VisibilityMap) (v : Visibility)
    (terms : List String) (t : String) : (m.set v (terms ++ [s])).visibilityOf t =
      if Term.normal s = Term.normal t then v else (m.set v terms).visibilityOf t := by
  have habout : isAbout t (s, v) = decide (Term.normal s = Term.normal t) := by
    rw [← Term.normal_eq_empty_iff] at hs
    rw [isAbout, decide_eq_decide]
    exact and_iff_right hs
  rw [set_concat, visibilityOf_setOne _ (s, v), habout]
  simp only [decide_eq_true_eq]

/-- That the term listed last decides, whatever the map was before, is what having its normal form comes to. -/
theorem visibilityOf_set_concat_iff {s : String} (hs : ¬ Term.IsBlank s) (t : String) :
    (∀ (m : VisibilityMap) v terms, (m.set v (terms ++ [s])).visibilityOf t = v) ↔
      Term.normal s = Term.normal t := by
  constructor
  · intro h
    by_contra hne
    have hshown := h (uniform .hidden) .shown []
    rw [visibilityOf_set_concat hs, if_neg hne] at hshown
    exact absurd ((visibilityOf_uniform .hidden t).symm.trans hshown) (by decide)
  · intro h m v terms
    rw [visibilityOf_set_concat hs, if_pos h]

end VisibilityMap

/-- Terms are the same everywhere by their normal forms, which are normal already: for a keyword that is looked for, for
the term that is listed last in a visibility map, and for the words of joined terms, which come out as they went in. -/
theorem Term.normal_forms_agree :
    (∀ s, normal (normal s) = normal s) ∧
    (∀ s t, (Keyword.ofTerm s).matchesTerm t = true ↔ normal s = normal t) ∧
    (∀ s t, ¬ IsBlank s →
      ((∀ (m : VisibilityMap) v terms, (m.set v (terms ++ [s])).visibilityOf t = v) ↔ normal s = normal t) ∧
      ∀ (m : VisibilityMap) v terms, normal s ≠ normal t →
        (m.set v (terms ++ [s])).visibilityOf t = (m.set v terms).visibilityOf t) ∧
    ∀ terms : List String, (∀ t ∈ terms, t ≠ "" ∧ Text.hasBlank t = false ∧ IsNormal t) →
      (Text.words (String.intercalate " " terms)).map Text.lowercase = terms := by
  refine ⟨normal_normal, fun s t => Keyword.matchesTerm_ofTerm, fun s t hs => ⟨?_, ?_⟩, fun terms h => ?_⟩
  · exact VisibilityMap.visibilityOf_set_concat_iff hs t
  · intro m v terms hne
    rw [VisibilityMap.visibilityOf_set_concat hs, if_neg hne]
  · exact lowercase_words_intercalate (fun t ht => ⟨(h t ht).1, (h t ht).2.1⟩) fun t ht => (h t ht).2.2

/-- A capital sigma at the end of a word and a capital I with a dot, with white space around: the spellings agree with
the lower-case ones, in a map too, and both come back from a joined text. -/
theorem Term.sigma_and_dotted_i_agree :
    (Keyword.ofTerm " ΟΔΟΣ ").matchesTerm "οδος" = true ∧
    (∀ (m : VisibilityMap) v terms, (m.set v (terms ++ [" ΟΔΟΣ "])).visibilityOf "οδος" = v) ∧
    (Text.words (String.intercalate " " ["οδος", "i\u0307"])).map Text.lowercase = ["οδος", "i\u0307"] := by
  obtain ⟨-, hmatches, hlast, hwords⟩ := normal_forms_agree
  have hsame : normal " ΟΔΟΣ " = normal "οδος" := by decide +kernel
  have hnot : ¬ IsBlank " ΟΔΟΣ " := fun h => absurd (h 'Ο' (by decide)) (by decide)
  refine ⟨(hmatches _ _).2 hsame, (hlast _ _ hnot).1.2 hsame, hwords _ ?_⟩
  simp only [List.forall_mem_cons, List.not_mem_nil, false_implies, implies_true, and_true]
  exact ⟨⟨by decide, by decide, " ΟΔΟΣ ", by decide +kernel⟩, by decide, by decide, "\u0130", by decide +kernel⟩

end TieredLedger
