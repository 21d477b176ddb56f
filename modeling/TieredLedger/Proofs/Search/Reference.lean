import Mathlib.Data.List.Forall2
import Mathlib.Data.List.Infix
import TieredLedger.Proofs.Term
import TieredLedger.Proofs.Text.Words
import TieredLedger.Search

/-! What a search finds, said without its loops: the matches of each term one after another, the first of each
block number, and of these the first few. -/
namespace TieredLedger

namespace Keyword

def shown? : Keyword → Option String
  | term value => some value
  | token _ => none

def hidden? : Keyword → Option String
  | term _ => none
  | token value => some value

end Keyword

namespace Search

def Shows (b : Block) (n : String) : Prop :=
  ∃ value ∈ (b.manualKeywords ++ b.autoKeywords).filterMap Keyword.shown?, Text.lowercase value = n

/-- Some chunk of a token made at write time looks encrypted and opens to a text with a word of this lower-case form. -/
def Opens (c : Codec) (password : String) (b : Block) (n : String) : Prop :=
  ∃ blob ∈ b.autoKeywords.filterMap Keyword.hidden?, ∃ chunk ∈ Text.words blob, c.looksEncrypted chunk = true ∧
    ∃ text ∈ c.decrypt chunk password, ∃ word ∈ Text.words text, Text.lowercase word = n

instance (b : Block) (n : String) : Decidable (Shows b n) := inferInstanceAs (Decidable (∃ _ ∈ _, _))

instance (c : Codec) (password : String) (b : Block) (n : String) : Decidable (Opens c password b n) :=
  inferInstanceAs (Decidable (∃ _ ∈ _, _))

/-- What one normal form finds: the blocks that show it, then those that the password opens to it. -/
def hits (c : Codec) (blocks : List Block) (password : Option String) (n : String) : List Block :=
  blocks.filter (Shows · n) ++
    match password with
    | none => []
    | some p => blocks.filter (Opens c p · n)

/-- The first block of each number. -/
def firsts : List Block → List Block
  | [] => []
  | b :: rest => b :: (firsts rest).filter fun d => d.number ≠ b.number

def findable (c : Codec) (blocks : List Block) (terms : List String) (password : Option String) : List Block :=
  firsts (((terms.map Term.normal).filter (· ≠ "")).flatMap (hits c blocks password))

private theorem showsTerm_iff {b : Block} {n : String} (hn : Term.normal n = n) : showsTerm b n = true ↔ Shows b n := by
  simp only [showsTerm, Block.keywords, List.any_eq_true, Shows, List.mem_filterMap]
  constructor
  · rintro ⟨k, hk, hmatch⟩
    cases k with
    | term value => exact ⟨value, ⟨_, hk, rfl⟩, by simpa [Keyword.matchesTerm, hn] using hmatch⟩
    | token value => simp [Keyword.matchesTerm] at hmatch
  · rintro ⟨value, ⟨k, hk, hv⟩, he⟩
    cases k with
    | term text =>
      cases hv
      exact ⟨_, hk, by simpa [Keyword.matchesTerm, hn] using he⟩
    | token text => simp [Keyword.shown?] at hv

private theorem wordHolds_iff {c : Codec} {password n chunk : String} :
    wordHolds c password n chunk = true ↔ c.looksEncrypted chunk = true ∧
      ∃ text ∈ c.decrypt chunk password, ∃ word ∈ Text.words text, Text.lowercase word = n := by
  rw [wordHolds, Bool.and_eq_true]
  cases c.decrypt chunk password <;> simp

private theorem hidesTerm_iff {c : Codec} {password : String} {b : Block} {n : String} :
    hidesTerm c password b n = true ↔ Opens c password b n := by
  simp only [hidesTerm, List.any_eq_true, Opens, List.mem_filterMap]
  constructor
  · rintro ⟨k, hk, hmatch⟩
    cases k with
    | term value => cases hmatch
    | token value =>
      obtain ⟨chunk, hc, hw⟩ := List.any_eq_true.1 hmatch
      exact ⟨value, ⟨_, hk, rfl⟩, chunk, hc, wordHolds_iff.1 hw⟩
  · rintro ⟨value, ⟨k, hk, hv⟩, chunk, hc, hw⟩
    cases k with
    | term text => simp [Keyword.hidden?] at hv
    | token text =>
      cases hv
      exact ⟨_, hk, List.any_eq_true.2 ⟨chunk, hc, wordHolds_iff.2 hw⟩⟩

theorem mem_firsts {bs : List Block} {b : Block} (h : b ∈ firsts bs) : b ∈ bs := by
  induction bs with
  | nil => exact h
  | cons a bs ih =>
    rcases List.mem_cons.1 h with rfl | h
    · exact List.mem_cons_self
    · exact List.mem_cons_of_mem a (ih (List.mem_of_mem_filter h))

/-- No number is lost when blocks are listed once each. -/
theorem number_mem_firsts (bs : List Block) (n : UInt64) :
    n ∈ (firsts bs).map (·.number) ↔ n ∈ bs.map (·.number) := by
  induction bs with
  | nil => rfl
  | cons a bs ih =>
    by_cases hn : n = a.number
    · simp [firsts, hn]
    · have hfilter : n ∈ ((firsts bs).filter fun d => d.number ≠ a.number).map (·.number) ↔
          n ∈ (firsts bs).map (·.number) := by
        simp only [List.mem_map, List.mem_filter]
        constructor
        · rintro ⟨d, ⟨hd, _⟩, he⟩
          exact ⟨d, hd, he⟩
        · rintro ⟨d, hd, he⟩
          exact ⟨d, ⟨hd, by simpa [he] using hn⟩, he⟩
      rw [firsts, List.map_cons, List.mem_cons, hfilter, ih, List.map_cons, List.mem_cons]

/-- No number is listed twice. -/
theorem nodup_firsts (bs : List Block) : ((firsts bs).map (·.number)).Nodup := by
  induction bs with
  | nil => exact List.nodup_nil
  | cons a bs ih =>
    rw [firsts, List.map_cons, List.nodup_cons]
    refine ⟨by simp, ?_⟩
    exact ih.sublist (List.filter_sublist.map _)

/-- One more block counts unless its number came before. -/
theorem firsts_append_singleton (bs : List Block) (b : Block) :
    firsts (bs ++ [b]) = if b.number ∈ bs.map (·.number) then firsts bs else firsts bs ++ [b] := by
  induction bs with
  | nil => rfl
  | cons a bs ih =>
    rw [List.cons_append, firsts, ih, firsts, List.map_cons]
    by_cases ha : b.number = a.number
    · split <;> simp [ha]
    · by_cases hb : b.number ∈ bs.map (·.number)
      · rw [if_pos hb, if_pos (List.mem_cons_of_mem _ hb)]
      · have hnot : b.number ∉ a.number :: bs.map (·.number) := by
          intro hmem
          rcases List.mem_cons.1 hmem with h | h
          · exact ha h
          · exact hb h
        rw [if_neg hb, if_neg hnot]
        simp [List.filter_append, ha]

private theorem firsts_prefix_append (xs ys : List Block) : firsts xs <+: firsts (xs ++ ys) := by
  induction ys generalizing xs with
  | nil => rw [List.append_nil]
  | cons b ys ih =>
    have hstep : firsts xs <+: firsts (xs ++ [b]) := by
      rw [firsts_append_singleton]
      split
      · exact List.prefix_rfl
      · exact List.prefix_append _ _
    simpa using hstep.trans (ih (xs ++ [b]))

private theorem isFound_firsts (bs : List Block) (b : Block) :
    isFound (firsts bs) b = true ↔ b.number ∈ bs.map (·.number) := by
  rw [← number_mem_firsts, isFound, List.any_eq_true, List.mem_map]
  simp

/-- Once the limit is reached, what comes later changes nothing. -/
theorem take_firsts_append_of_full {limit : Nat} {found : List Block} (more : List Block)
    (hfull : limit ≤ ((firsts found).take limit).length) :
    (firsts (found ++ more)).take limit = (firsts found).take limit := by
  have hlen : limit ≤ (firsts found).length := hfull.trans (List.length_take_le' limit _)
  obtain ⟨rest, hrest⟩ := firsts_prefix_append found more
  rw [← hrest, List.take_append_of_le_length hlen]

private theorem firsts_step {limit : Nat} {found : List Block} (hroom : (firsts found).length < limit) (hit : Bool)
    (b : Block) : (if !isFound (firsts found) b && hit then firsts found ++ [b] else firsts found) =
      (firsts (if hit then found ++ [b] else found)).take limit := by
  cases hit with
  | false =>
    rw [Bool.and_false, if_neg Bool.false_ne_true, if_neg Bool.false_ne_true, List.take_of_length_le hroom.le]
  | true =>
    rw [if_pos rfl, firsts_append_singleton, Bool.and_true]
    by_cases hf : b.number ∈ found.map (·.number)
    · rw [if_pos hf, (isFound_firsts found b).2 hf, List.take_of_length_le hroom.le]
      rfl
    · have hnot : isFound (firsts found) b = false := by
        rw [← Bool.not_eq_true, isFound_firsts]
        exact hf
      rw [if_neg hf, hnot, List.take_of_length_le (by rw [List.length_append]; exact hroom)]
      rfl

/-- The loop over the blocks adds the matching ones to what the limit lets through of the blocks found so far. -/
theorem collect_take_firsts (limit : Nat) (isMatch : Block → Bool) (blocks found : List Block) :
    collect limit isMatch blocks ((firsts found).take limit) =
      (firsts (found ++ blocks.filter isMatch)).take limit := by
  induction blocks generalizing found with
  | nil => rw [collect, List.filter_nil, List.append_nil]
  | cons b rest ih =>
    rw [collect]
    by_cases hfull : limit ≤ ((firsts found).take limit).length
    · rw [if_pos hfull, take_firsts_append_of_full _ hfull]
    · rw [if_neg hfull]
      have hroom : (firsts found).length < limit := by
        rw [List.length_take] at hfull
        omega
      rw [List.take_of_length_le hroom.le, ← apply_ite (collect limit isMatch rest), firsts_step hroom, ih,
        List.filter_cons]
      split <;> simp

private theorem collect_shown (limit : Nat) (n : String) (hn : Term.normal n = n) (blocks found : List Block) :
    collect limit (fun b => showsTerm b n) blocks ((firsts found).take limit) =
      (firsts (found ++ blocks.filter (Shows · n))).take limit := by
  have hfun : (fun b => showsTerm b n) = fun b => decide (Shows b n) := by
    funext b
    rw [Bool.eq_iff_iff, decide_eq_true_iff]
    exact showsTerm_iff hn
  rw [hfun, collect_take_firsts]

private theorem collect_hidden (c : Codec) (password : String) (limit : Nat) (n : String) (blocks found : List Block) :
    collect limit (fun b => hidesTerm c password b n) blocks ((firsts found).take limit) =
      (firsts (found ++ blocks.filter (Opens c password · n))).take limit := by
  have hfun : (fun b => hidesTerm c password b n) = fun b => decide (Opens c password b n) := by
    funext b
    rw [Bool.eq_iff_iff, decide_eq_true_iff]
    exact hidesTerm_iff
  rw [hfun, collect_take_firsts]

/-- One term adds its hits, and a blank one nothing. -/
theorem searchTerm_take_firsts (c : Codec) (blocks : List Block) (password : Option String) (limit : Nat)
    (found : List Block) (term : String) :
    searchTerm c blocks password limit ((firsts found).take limit) term =
      (firsts (found ++ (([term].map Term.normal).filter (· ≠ "")).flatMap (hits c blocks password))).take limit := by
  rw [searchTerm]
  by_cases hblank : Term.normal term = ""
  · simp [hblank]
  have hgiven : (([term].map Term.normal).filter (· ≠ "")).flatMap (hits c blocks password) =
      hits c blocks password (Term.normal term) := by simp [hblank]
  rw [hgiven]
  by_cases hfull : limit ≤ ((firsts found).take limit).length
  · rw [take_firsts_append_of_full _ hfull]
    exact if_pos (Or.inl hfull)
  have hgo : ¬ (limit ≤ ((firsts found).take limit).length ∨ (Term.normal term).isEmpty = true) := by
    rintro (h | h)
    · exact hfull h
    · exact hblank (String.isEmpty_iff.1 h)
  rw [if_neg hgo, collect_shown limit _ (Term.normal_normal term)]
  cases password with
  | none => rw [hits, List.append_nil]
  | some p => exact (collect_hidden c p limit _ blocks _).trans (by rw [hits, List.append_assoc])

private theorem foldl_searchTerm (c : Codec) (blocks : List Block) (password : Option String) (limit : Nat)
    (terms : List String) (found : List Block) :
    terms.foldl (searchTerm c blocks password limit) ((firsts found).take limit) =
      (firsts (found ++ ((terms.map Term.normal).filter (· ≠ "")).flatMap (hits c blocks password))).take limit := by
  induction terms generalizing found with
  | nil => simp
  | cons term terms ih =>
    have hsplit : (((term :: terms).map Term.normal).filter (· ≠ "")).flatMap (hits c blocks password) =
        (([term].map Term.normal).filter (· ≠ "")).flatMap (hits c blocks password) ++
          ((terms.map Term.normal).filter (· ≠ "")).flatMap (hits c blocks password) := by
      rw [← List.flatMap_append, ← List.filter_append, ← List.map_append, List.singleton_append]
    rw [List.foldl_cons, searchTerm_take_firsts, ih, hsplit, List.append_assoc]

/-- The loops of a search with its early exits find what the terms find together, up to the limit. -/
theorem byTerms_eq_take_findable (c : Codec) (blocks : List Block) (terms : List String) (password : Option String)
    (limit : Nat) : byTerms c blocks terms password limit = (findable c blocks terms password).take limit := by
  simpa [byTerms, findable, firsts] using foldl_searchTerm c blocks password limit terms []

/-- Two blocks that no search tells apart: they have one number, and the same terms find them. -/
structure Alike (c : Codec) (password : Option String) (a b : Block) : Prop where
  number : a.number = b.number
  shows : ∀ n, Shows a n ↔ Shows b n
  opens : ∀ p ∈ password, ∀ n, Opens c p a n ↔ Opens c p b n

variable {c : Codec} {password : Option String} {as bs : List Block} {R : Block → Block → Prop}

private theorem firsts_rel (hR : ∀ a b, R a b → a.number = b.number) (h : List.Forall₂ R as bs) :
    List.Forall₂ R (firsts as) (firsts bs) := by
  induction h with
  | nil => exact .nil
  | cons hab _ ih =>
    refine .cons hab (List.rel_filter ?_ ih)
    intro x y hxy
    simp [hR _ _ hab, hR _ _ hxy]

private theorem hits_rel (hR : ∀ a b, R a b → Alike c password a b) (h : List.Forall₂ R as bs) (n : String) :
    List.Forall₂ R (hits c as password n) (hits c bs password n) := by
  have hshown : List.Forall₂ R (as.filter (Shows · n)) (bs.filter (Shows · n)) :=
    List.rel_filter (fun a b hab => by simpa using (hR a b hab).shows n) h
  cases password with
  | none => simpa [hits] using hshown
  | some p =>
    exact List.rel_append hshown (List.rel_filter (fun a b hab => by simpa using (hR a b hab).opens p rfl n) h)

/-- Lists whose blocks are alike, place by place, give results that correspond place by place. -/
theorem findable_rel (hR : ∀ a b, R a b → Alike c password a b) (h : List.Forall₂ R as bs) (terms : List String) :
    List.Forall₂ R (findable c as terms password) (findable c bs terms password) := by
  refine firsts_rel (fun a b hab => (hR a b hab).number) ?_
  induction (terms.map Term.normal).filter (· ≠ "") with
  | nil => exact .nil
  | cons n ns ih => exact List.rel_append (hits_rel hR h n) ih

/-- A block without the tokens among the keywords that its writer supplied. -/
def withoutManualTokens (b : Block) : Block := { b with manualKeywords := b.manualKeywords.filter Keyword.isTerm }

private theorem alike_withoutManualTokens (c : Codec) (password : Option String) (b : Block) :
    Alike c password b (withoutManualTokens b) := by
  have hshown : (b.manualKeywords.filter Keyword.isTerm).filterMap Keyword.shown? =
      b.manualKeywords.filterMap Keyword.shown? := by
    rw [List.filterMap_filter]
    congr 1
    funext k
    cases k <;> rfl
  refine ⟨rfl, fun n => ?_, fun p _ n => Iff.rfl⟩
  rw [Shows, Shows, List.filterMap_append, List.filterMap_append, withoutManualTokens, hshown]

/-- A search finds exactly what its terms find together, each number once, up to the limit. So a larger limit only adds
to the end of the result, and a token among the keywords of the writer makes no difference. -/
theorem byTerms_eq_first_hits (c : Codec) (blocks : List Block) (terms : List String) (password : Option String)
    (limit more : Nat) :
    byTerms c blocks terms password limit =
        (firsts (((terms.map Term.normal).filter (· ≠ "")).flatMap (hits c blocks password))).take limit ∧
      byTerms c blocks terms password limit <+: byTerms c blocks terms password (limit + more) ∧
      ((byTerms c blocks terms password limit).map (·.number)).Nodup ∧
      byTerms c (blocks.map withoutManualTokens) terms password limit =
        (byTerms c blocks terms password limit).map withoutManualTokens := by
  refine ⟨byTerms_eq_take_findable c blocks terms password limit, ?_, ?_, ?_⟩
  · rw [byTerms_eq_take_findable, byTerms_eq_take_findable]
    exact List.take_prefix_take_left (Nat.le_add_right limit more)
  · rw [byTerms_eq_take_findable]
    exact (nodup_firsts _).sublist ((List.take_sublist limit _).map _)
  · have hrel : List.Forall₂ (fun a b => withoutManualTokens a = b) blocks (blocks.map withoutManualTokens) := by
      rw [List.forall₂_map_right_iff, List.forall₂_same]
      exact fun b _ => rfl
    have halike : ∀ a b, withoutManualTokens a = b → Alike c password a b := by
      rintro a b rfl
      exact alike_withoutManualTokens c password a
    have hfound := findable_rel halike hrel terms
    rw [← List.forall₂_map_left_iff, List.forall₂_eq_eq_eq] at hfound
    rw [byTerms_eq_take_findable, byTerms_eq_take_findable, List.map_take, hfound]

end Search

end TieredLedger
