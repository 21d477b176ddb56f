import Mathlib.Data.List.Pairwise
import TieredLedger.Proofs.Json.Record
import TieredLedger.Proofs.Visibility

/-! Maps that are read from JSON. Keys are taken as they are written and terms are looked up by their normal form, so an
override that is listed under another spelling stands for nothing. -/
namespace TieredLedger.VisibilityMap

/-- The overrides in the JSON form of a map: its second field, by name or by place. -/
inductive OverridesIn : Json → Json → Prop
  | named {members : List (Option String × Json)} {overrides : Json} (h : (some "overrides", overrides) ∈ members) :
      OverridesIn (.object members) overrides
  | placed (level overrides : Json) : OverridesIn (.array [level, overrides]) overrides

/-- The overrides that a JSON form lists, in its order: terms as they are written there, each with its visibility. -/
def Lists (j : Json) (entries : List (String × Visibility)) : Prop :=
  ∃ members, OverridesIn j (.object members) ∧
    members.Forall₂ (fun member entry => member.1 = some entry.1 ∧ Visibility.ofJson? member.2 = some entry.2) entries

def lastUnder? (entries : List (String × Visibility)) (key : String) : Option Visibility :=
  (entries.reverse.find? fun entry => entry.1 == key).map (·.2)

variable {j overrides : Json} {m : VisibilityMap} {entries : List (String × Visibility)} {term key : String}
  {v : Visibility}

private theorem lastUnder?_cons (entry : String × Visibility) (entries : List (String × Visibility)) (key : String) :
    lastUnder? (entry :: entries) key = (lastUnder? entries key).or (if entry.1 = key then some entry.2 else none) := by
  rw [lastUnder?, lastUnder?, List.reverse_cons, List.find?_append, Option.map_or, List.find?_singleton]
  by_cases hkey : entry.1 = key
  · rw [if_pos hkey, if_pos (beq_iff_eq.2 hkey), Option.map_some]
  · rw [if_neg hkey, if_neg (mt beq_iff_eq.1 hkey), Option.map_none]

private theorem getElem?_foldl_insert (entries : List (String × Visibility)) (found : Std.TreeMap String Visibility)
    (key : String) : (entries.foldl (fun found entry => found.insert entry.1 entry.2) found)[key]? =
      (lastUnder? entries key).or found[key]? := by
  induction entries generalizing found with
  | nil => rfl
  | cons entry entries ih =>
    rw [List.foldl_cons, ih, lastUnder?_cons, Option.or_assoc]
    congr 1
    rw [Std.TreeMap.getElem?_insert]
    by_cases hkey : entry.1 = key
    · rw [if_pos hkey, if_pos (Std.LawfulEqCmp.compare_eq_iff_eq.2 hkey), Option.some_or]
    · rw [if_neg hkey, if_neg (fun h => hkey (Std.LawfulEqCmp.compare_eq_iff_eq.1 h)), Option.none_or]

/-- Under keys that differ each entry is the last one of its own. -/
theorem lastUnder?_eq_some (hkeys : entries.Pairwise fun a b => a.1 ≠ b.1) :
    lastUnder? entries key = some v ↔ (key, v) ∈ entries := by
  have hnodup : (entries.reverse.map Prod.fst).Nodup := by
    rwa [List.map_reverse, List.nodup_reverse, List.Nodup, List.pairwise_map]
  rw [lastUnder?, Json.find?_name_eq_some hnodup, List.mem_reverse]

private theorem overridesIn_iff {level : Option Json}
    (h : j.record? ["default_level", "overrides"] = some [level, some overrides]) (other : Json) :
    OverridesIn j other ↔ other = overrides := by
  rcases Json.record?_eq_some h with ⟨fields, rfl, hfields⟩ | ⟨items, rfl, -, hitems⟩
  · have hfound : Json.member? fields "overrides" = some (some overrides) := by
      simp only [List.mapM_cons, List.mapM_nil, Option.bind_eq_bind, Option.bind_eq_some_iff, Option.pure_def,
        Option.some.injEq] at hfields
      obtain ⟨_, _, _, ⟨found, hfound, _, rfl, rfl⟩, heq⟩ := hfields
      rw [hfound, (List.cons.inj (List.cons.inj heq).2).1]
    rw [← Json.mem_iff_of_member? hfound]
    constructor
    · rintro ⟨hmem⟩
      obtain ⟨⟨name, value⟩, hfield, heq⟩ := List.mem_map.1 hmem
      simp only [Prod.mk.injEq, Option.some.injEq] at heq
      obtain ⟨rfl, rfl⟩ := heq
      exact hfield
    · exact fun hmem => .named (List.mem_map.2 ⟨_, hmem, rfl⟩)
  · have hpair : ∃ first, items = [first, overrides] := by
      match items, hitems with
      | [first, second], hitems =>
        exact ⟨first, by rw [Option.some.inj (List.cons.inj (List.cons.inj hitems).2).1]⟩
    obtain ⟨first, rfl⟩ := hpair
    constructor
    · rintro ⟨_⟩
      rfl
    · rintro rfl
      exact .placed first other

private theorem overrides_of_ofJson? (h : ofJson? j = some m) :
    ∃ entries, (∀ other, Lists j other ↔ other = entries) ∧
      m.overrides = entries.foldl (fun found entry => found.insert entry.1 entry.2) ∅ := by
  simp only [ofJson?, Option.bind_eq_bind, Option.bind_eq_some_iff] at h
  obtain ⟨values, hvalues, h⟩ := h
  split at h
  · next level second =>
    simp only [Json.required, Option.bind_eq_some_iff, Option.pure_def, Option.some.injEq] at h
    obtain ⟨default, -, entries, ⟨overrides, rfl, hentries⟩, rfl⟩ := h
    refine ⟨entries, fun other => ?_, rfl⟩
    have hlists : Lists j other ↔ overrides.map? Visibility.ofJson? = some other := by
      rw [Lists, Json.map?_eq_some]
      simp only [overridesIn_iff hvalues, eq_comm]
    rw [hlists, hentries, Option.some.injEq, eq_comm]
  · cases h

private theorem exists_lists (h : ofJson? j = some m) : ∃ entries, Lists j entries := by
  obtain ⟨entries, hentries, -⟩ := overrides_of_ofJson? h
  exact ⟨entries, (hentries entries).2 rfl⟩

/-- In a map that is read a term has the visibility that is listed last under its normal form. -/
theorem visibilityOf_of_lists (h : ofJson? j = some m) (hlists : Lists j entries) (term : String) :
    m.visibilityOf term = (lastUnder? entries (Term.normal term)).getD m.default := by
  obtain ⟨_, hentries, hoverrides⟩ := overrides_of_ofJson? h
  obtain rfl := (hentries entries).1 hlists
  rw [visibilityOf, hoverrides, getElem?_foldl_insert, Std.TreeMap.getElem?_emptyc, Option.or_none]

/-- Among entries for different terms one counts if it is listed under the normal form of its term, and else makes no
difference. -/
theorem lastUnder?_normal (hterms : entries.Pairwise fun a b => Term.normal a.1 ≠ Term.normal b.1)
    (hmem : (term, v) ∈ entries) :
    lastUnder? entries (Term.normal term) = if Term.normal term = term then some v else none := by
  have hkeys : entries.Pairwise fun a b => a.1 ≠ b.1 := hterms.imp fun hne heq => hne (congrArg Term.normal heq)
  split
  · next hnormal => rwa [hnormal, lastUnder?_eq_some hkeys]
  · next hother =>
    have hsymm : Std.Symm fun a b : String × Visibility => Term.normal a.1 ≠ Term.normal b.1 := ⟨fun _ _ => Ne.symm⟩
    rw [Option.eq_none_iff_forall_ne_some]
    intro w hw
    have hlisted : (Term.normal term, w) ∈ entries := (lastUnder?_eq_some hkeys).1 hw
    have hne : (Term.normal term, w) ≠ (term, v) := fun heq => hother (Prod.mk.inj heq).1
    exact hterms.forall hlisted hmem hne (Term.normal_normal term)

/-- What a map writes is read as a map that gives every term the same visibility. -/
theorem exists_ofJson?_toJson (m : VisibilityMap) :
    ∃ m', ofJson? m.toJson = some m' ∧ ∀ term, m'.visibilityOf term = m.visibilityOf term := by
  have hlevel : ∀ v : Visibility, Visibility.ofJson? v.toJson = some v := by
    intro v
    cases v <;> rfl
  obtain ⟨overrides, hform, hmap⟩ : ∃ overrides, m.toJson =
      .record [("default_level", m.default.toJson), ("overrides", overrides)] ∧
        overrides.map? Visibility.ofJson? = some m.overrides.toList := by
    refine ⟨_, rfl, Json.map?_eq_some.2 ⟨_, rfl, ?_⟩⟩
    rw [List.map_map, List.forall₂_map_left_iff, List.forall₂_same]
    exact fun entry _ => ⟨rfl, hlevel entry.2⟩
  have hrecord := Json.record?_record [("default_level", m.default.toJson), ("overrides", overrides)]
    (by simp only [List.map_cons, List.map_nil]; decide)
  simp only [List.map_cons, List.map_nil] at hrecord
  refine ⟨⟨m.default, m.overrides.toList.foldl (fun found entry => found.insert entry.1 entry.2) ∅⟩, ?_, ?_⟩
  · rw [ofJson?, hform, hrecord]
    simp only [Option.bind_eq_bind, Option.bind_some, Json.required, hlevel, hmap]
    rfl
  · intro term
    have hkeys : m.overrides.toList.Pairwise fun a b => a.1 ≠ b.1 :=
      Std.TreeMap.distinct_keys_toList.imp fun hne heq => hne (Std.LawfulEqCmp.compare_eq_iff_eq.2 heq)
    have hsame : lastUnder? m.overrides.toList (Term.normal term) = m.overrides[Term.normal term]? := by
      ext v
      rw [lastUnder?_eq_some hkeys, Std.TreeMap.mem_toList_iff_getElem?_eq_some]
    rw [visibilityOf, getElem?_foldl_insert, Std.TreeMap.getElem?_emptyc, Option.or_none, hsame, visibilityOf]

/-- A map that is read gives a term the visibility that its JSON form lists last under the normal form of the term, and
its default where nothing is listed there. So, where the form lists different terms, an override is honoured if it is
listed under a normal form, and is of no account if it is not. -/
theorem listed_term_counts_in_normal_form (h : ofJson? j = some m) :
    (∃ entries, Lists j entries) ∧ ∀ entries, Lists j entries →
      (∀ term, m.visibilityOf term = (lastUnder? entries (Term.normal term)).getD m.default) ∧
      (entries.Pairwise (fun a b => Term.normal a.1 ≠ Term.normal b.1) → ∀ term v, (term, v) ∈ entries →
        (m.visibilityOf term = v ↔ Term.normal term = term ∨ m.default = v) ∧
        (Term.normal term = term → v = .hidden →
          ∀ (terms : TermSet) (spelling : String), Term.normal spelling = term → spelling ∉ (m.partition terms).shown)) := by
  refine ⟨exists_lists h, fun entries hlists => ⟨visibilityOf_of_lists h hlists, fun hterms term v hmem => ?_⟩⟩
  have hvisibility : m.visibilityOf term = if Term.normal term = term then v else m.default := by
    rw [visibilityOf_of_lists h hlists, lastUnder?_normal hterms hmem]
    split <;> rfl
  constructor
  · rw [hvisibility]
    split
    · next hnormal => simp [hnormal]
    · next hother => simp [hother]
  · rintro hnormal rfl terms spelling hspelling hshown
    obtain ⟨-, hspelled⟩ := ((exact_partition m terms).shown spelling).1 hshown
    have hsame : m.visibilityOf spelling = m.visibilityOf term := by rw [visibilityOf, visibilityOf, hspelling, hnormal]
    rw [hspelled, hvisibility, if_pos hnormal] at hsame
    cases hsame

def formHiding (term : String) : Json :=
  .record [("default_level", .text "public"), ("overrides", .record [(term, .text "private")])]

private theorem lists_formHiding (term : String) : Lists (formHiding term) [(term, .hidden)] :=
  ⟨_, .named (.tail _ (.head _)), .cons ⟨rfl, rfl⟩ .nil⟩

/-- A name that is listed in its normal form is hidden, however it is spelled. -/
theorem listed_alice_is_hidden : ∃ m, ofJson? (formHiding "alice") = some m ∧ m.visibilityOf "alice" = .hidden ∧
    ∀ terms : TermSet, " ALICE" ∉ (m.partition terms).shown := by
  obtain ⟨m, hm⟩ := Option.isSome_iff_exists.1 (by decide +kernel : (ofJson? (formHiding "alice")).isSome = true)
  have hnormal : Term.normal "alice" = "alice" := by decide +kernel
  obtain ⟨-, hlisted⟩ := listed_term_counts_in_normal_form hm
  obtain ⟨-, hterms⟩ := hlisted _ (lists_formHiding "alice")
  obtain ⟨hvisibility, hhidden⟩ := hterms (List.pairwise_singleton _ _) _ _ (List.mem_singleton_self _)
  exact ⟨m, hm, hvisibility.2 (Or.inl hnormal),
    fun terms => hhidden hnormal rfl terms " ALICE" (by decide +kernel)⟩

/-- An override that is listed with a capital letter hides nothing: the term that it names is shown. -/
theorem listed_capital_is_lost : ∃ m, ofJson? (formHiding "Alice") = some m ∧
    Lists (formHiding "Alice") [("Alice", .hidden)] ∧ Term.normal "Alice" ≠ "" ∧ m.visibilityOf "Alice" = .shown ∧
    "Alice" ∈ (m.partition (Std.TreeSet.ofList ["Alice"])).shown := by
  obtain ⟨m, hm, hshown⟩ := Option.map_eq_some_iff.1
    (by decide +kernel : (ofJson? (formHiding "Alice")).map (·.visibilityOf "Alice") = some .shown)
  refine ⟨m, hm, lists_formHiding "Alice", by decide +kernel, hshown, ?_⟩
  exact ((exact_partition m _).shown "Alice").2 ⟨by decide +kernel, hshown⟩

end TieredLedger.VisibilityMap
