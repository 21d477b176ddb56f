import TieredLedger.Proofs.Bytes
import TieredLedger.Proofs.Term
import TieredLedger.Visibility

/-! Who may find a term. The last call that lists it decides, however it is written there, and splitting a set of terms
puts each on the side that this says. -/
namespace TieredLedger.VisibilityMap

structure Listing where
  visibility : Visibility
  terms : List String

def Listing.entries (l : Listing) : List (String × Visibility) := l.terms.map fun term => (term, l.visibility)

def setAll (m : VisibilityMap) (listings : List Listing) : VisibilityMap :=
  listings.foldl (fun m l => m.set l.visibility l.terms) m

def isAbout (term : String) (entry : String × Visibility) : Bool :=
  Term.normal entry.1 ≠ "" ∧ Term.normal entry.1 = Term.normal term

/-- What the last entry about a term says. -/
def lastSaid? (entries : List (String × Visibility)) (term : String) : Option Visibility :=
  (entries.reverse.find? (isAbout term)).map (·.2)

variable {m : VisibilityMap} {terms : TermSet} {term : String}

private theorem lastSaid?_cons (entry : String × Visibility) (entries : List (String × Visibility)) (term : String) :
    lastSaid? (entry :: entries) term =
      (lastSaid? entries term).or (if isAbout term entry then some entry.2 else none) := by
  rw [lastSaid?, lastSaid?, List.reverse_cons, List.find?_append, Option.map_or, List.find?_singleton]
  cases isAbout term entry with
  | true => rw [if_pos rfl, if_pos rfl, Option.map_some]
  | false => rw [if_neg Bool.false_ne_true, if_neg Bool.false_ne_true, Option.map_none]

/-- An entry decides for the terms that it is about. -/
theorem visibilityOf_setOne (m : VisibilityMap) (entry : String × Visibility) (term : String) :
    (m.setOne entry.2 entry.1).visibilityOf term = if isAbout term entry then entry.2 else m.visibilityOf term := by
  rw [setOne, isAbout]
  by_cases hblank : Term.normal entry.1 = ""
  · simp [hblank]
  · have hkey : (Term.normal entry.1).isEmpty = false := by simpa using hblank
    rw [visibilityOf, hkey, if_neg Bool.false_ne_true, Std.TreeMap.getElem?_insert]
    by_cases hsame : Term.normal entry.1 = Term.normal term
    · rw [if_pos (Std.LawfulEqCmp.compare_eq_iff_eq.2 hsame), if_pos (decide_eq_true ⟨hblank, hsame⟩), Option.getD_some]
    · rw [if_neg (fun h => hsame (Std.LawfulEqCmp.compare_eq_iff_eq.1 h)), if_neg, visibilityOf]
      exact fun h => hsame (of_decide_eq_true h).2

/-- After entries the last one about a term decides, and where there is none the map is as before. -/
theorem visibilityOf_foldl_setOne (m : VisibilityMap) (entries : List (String × Visibility)) (term : String) :
    (entries.foldl (fun m entry => m.setOne entry.2 entry.1) m).visibilityOf term =
      (lastSaid? entries term).getD (m.visibilityOf term) := by
  induction entries generalizing m with
  | nil => rfl
  | cons entry entries ih =>
    rw [List.foldl_cons, ih, visibilityOf_setOne, lastSaid?_cons]
    cases lastSaid? entries term with
    | some v => rw [Option.some_or, Option.getD_some, Option.getD_some]
    | none => rw [Option.none_or, Option.getD_none, apply_ite (Option.getD · (m.visibilityOf term)), Option.getD_some,
        Option.getD_none]

private theorem setAll_eq_foldl_setOne (m : VisibilityMap) (listings : List Listing) :
    m.setAll listings = (listings.flatMap Listing.entries).foldl (fun m entry => m.setOne entry.2 entry.1) m := by
  induction listings generalizing m with
  | nil => rfl
  | cons l listings ih =>
    rw [List.flatMap_cons, List.foldl_append, ← ih, Listing.entries, List.foldl_map]
    rfl

/-- A map without entries has one visibility for all terms. -/
theorem visibilityOf_uniform (v : Visibility) (term : String) : (uniform v).visibilityOf term = v := by
  rw [visibilityOf, uniform, Std.TreeMap.getElem?_emptyc, Option.getD_none]

/-- The terms that are selected are those of the visibility asked for. -/
theorem mem_select {v : Visibility} : term ∈ m.select v terms ↔ term ∈ terms ∧ m.visibilityOf term = v := by
  rw [select, List.mem_filter, Std.TreeSet.mem_toList, beq_iff_eq]

/-- What is taken from a set of terms stays in the order of their bytes, each term once. -/
theorem sorted_select (m : VisibilityMap) (v : Visibility) (terms : TermSet) :
    (m.select v terms).Pairwise fun s t => Bytes.ofText s < Bytes.ofText t := by
  rw [select]
  apply List.Pairwise.filter
  exact Std.TreeSet.ordered_toList.imp fun h => Bytes.ofText_lt_ofText (compare_lt_iff_lt.1 h)

/-- A split of a set of terms by their visibility, in their own spelling: two sets, in the order of their bytes, that have
nothing in common and together are the set. -/
structure Split.Exact (s : Split) (m : VisibilityMap) (terms : TermSet) : Prop where
  shown : ∀ term, term ∈ s.shown ↔ term ∈ terms ∧ m.visibilityOf term = .shown
  hidden : ∀ term, term ∈ s.hidden ↔ term ∈ terms ∧ m.visibilityOf term = .hidden
  sorted_shown : s.shown.Pairwise fun s t => Bytes.ofText s < Bytes.ofText t
  sorted_hidden : s.hidden.Pairwise fun s t => Bytes.ofText s < Bytes.ofText t
  disjoint : s.shown.Disjoint s.hidden
  union : ∀ term, term ∈ s.shown ∨ term ∈ s.hidden ↔ term ∈ terms
  size : s.size = terms.size

private theorem size_partition (m : VisibilityMap) (terms : TermSet) : (m.partition terms).size = terms.size := by
  have hother : (fun term => m.visibilityOf term == .hidden) = fun term => !(m.visibilityOf term == .shown) := by
    funext term
    cases m.visibilityOf term <;> rfl
  rw [Split.size, partition, select, select, hother, ← List.length_eq_length_filter_add, Std.TreeSet.length_toList]

/-- A set of terms is split exactly. -/
theorem exact_partition (m : VisibilityMap) (terms : TermSet) : (m.partition terms).Exact m terms where
  shown _ := mem_select
  hidden _ := mem_select
  sorted_shown := sorted_select m .shown terms
  sorted_hidden := sorted_select m .hidden terms
  disjoint := by
    intro term hshown hhidden
    have h := (mem_select.1 hshown).2
    rw [(mem_select.1 hhidden).2] at h
    cases h
  union term := by
    change term ∈ m.select .shown terms ∨ term ∈ m.select .hidden terms ↔ term ∈ terms
    rw [mem_select, mem_select, ← and_or_left]
    apply and_iff_left
    cases m.visibilityOf term with
    | shown => exact Or.inl rfl
    | hidden => exact Or.inr rfl
  size := size_partition m terms

/-- The last entry about a term decides who may find it, with the default for a term that no entry is about; and every
map splits every set of terms exactly. -/
theorem last_listing_decides_and_splits (v : Visibility) (listings : List Listing) :
    (∀ term, ((uniform v).setAll listings).visibilityOf term =
      (lastSaid? (listings.flatMap Listing.entries) term).getD v) ∧
    ∀ (m : VisibilityMap) (terms : TermSet), (m.partition terms).Exact m terms := by
  refine ⟨?_, exact_partition⟩
  intro term
  rw [setAll_eq_foldl_setOne, visibilityOf_foldl_setOne, visibilityOf_uniform]

end TieredLedger.VisibilityMap
