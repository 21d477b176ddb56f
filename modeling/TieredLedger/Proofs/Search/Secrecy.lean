import TieredLedger.Proofs.Search.Reference

/-! What a search gives away. Two runs over blocks that agree in what the searcher may read find the same numbers in the
same order, and a password that opens nothing finds what no password finds. -/
namespace TieredLedger.Search

/-- Two blocks with one number and the same readable keywords, in whatever order and however often. -/
structure SameShown (a b : Block) : Prop where
  number : a.number = b.number
  terms : ∀ value, Keyword.term value ∈ a.keywords ↔ Keyword.term value ∈ b.keywords

/-- Two blocks that carry the same tokens from when they were written. -/
def SameTokens (a b : Block) : Prop :=
  ∀ blob, Keyword.token blob ∈ a.autoKeywords ↔ Keyword.token blob ∈ b.autoKeywords

/-- A password opens no chunk that a search would try. -/
def OpensNothing (c : Codec) (password : String) (blocks : List Block) : Prop :=
  ∀ b ∈ blocks, ∀ blob, Keyword.token blob ∈ b.autoKeywords → ∀ chunk ∈ Text.words blob,
    c.looksEncrypted chunk = true → c.decrypt chunk password = none

variable {c : Codec} {p : String} {password : Option String} {a b : Block} {as bs blocks : List Block}
  {R : Block → Block → Prop}

private theorem mem_shown? {ks : List Keyword} {value : String} :
    value ∈ ks.filterMap Keyword.shown? ↔ Keyword.term value ∈ ks := by
  rw [List.mem_filterMap]
  constructor
  · rintro ⟨k, hk, hvalue⟩
    cases k with
    | term text =>
      cases hvalue
      exact hk
    | token text => cases hvalue
  · intro h
    exact ⟨_, h, rfl⟩

private theorem mem_hidden? {ks : List Keyword} {blob : String} :
    blob ∈ ks.filterMap Keyword.hidden? ↔ Keyword.token blob ∈ ks := by
  rw [List.mem_filterMap]
  constructor
  · rintro ⟨k, hk, hblob⟩
    cases k with
    | term text => cases hblob
    | token text =>
      cases hblob
      exact hk
  · intro h
    exact ⟨_, h, rfl⟩

private theorem SameShown.shows (h : SameShown a b) (n : String) : Shows a n ↔ Shows b n := by
  have hterms : ∀ value, value ∈ (a.manualKeywords ++ a.autoKeywords).filterMap Keyword.shown? ↔
      value ∈ (b.manualKeywords ++ b.autoKeywords).filterMap Keyword.shown? := by
    intro value
    rw [mem_shown?, mem_shown?]
    exact h.terms value
  simp only [Shows, hterms]

private theorem SameTokens.opens (h : SameTokens a b) (n : String) : Opens c p a n ↔ Opens c p b n := by
  have htokens : ∀ blob, blob ∈ a.autoKeywords.filterMap Keyword.hidden? ↔
      blob ∈ b.autoKeywords.filterMap Keyword.hidden? := by
    intro blob
    rw [mem_hidden?, mem_hidden?]
    exact h blob
  simp only [Opens, htokens]

private theorem SameShown.alike_open (h : SameShown a b) : Alike c none a b := by
  refine ⟨h.number, h.shows, ?_⟩
  intro p hp
  cases hp

private theorem SameShown.alike (h : SameShown a b) (htokens : SameTokens a b) : Alike c password a b :=
  ⟨h.number, h.shows, fun _ _ => htokens.opens⟩

private theorem byTerms_rel (hR : ∀ a b, R a b → Alike c password a b) (h : List.Forall₂ R as bs) (terms : List String)
    (limit : Nat) : List.Forall₂ R (byTerms c as terms password limit) (byTerms c bs terms password limit) := by
  rw [byTerms_eq_take_findable, byTerms_eq_take_findable]
  exact List.forall₂_take limit (findable_rel hR h terms)

private theorem numbers_eq (hR : ∀ a b, R a b → a.number = b.number) (h : List.Forall₂ R as bs) :
    as.map (·.number) = bs.map (·.number) := by
  induction h with
  | nil => rfl
  | cons hab _ ih => rw [List.map_cons, List.map_cons, hR _ _ hab, ih]

/-- Without a password the codec is never asked. -/
theorem byTerms_open_codec (c d : Codec) (blocks : List Block) (terms : List String) (limit : Nat) :
    byTerms c blocks terms none limit = byTerms d blocks terms none limit := by
  rw [byTerms_eq_take_findable, byTerms_eq_take_findable]
  rfl

/-- A password that opens nothing adds no hits to any term, so neither the limit nor the numbers found before see it. -/
theorem hits_of_opensNothing (h : OpensNothing c p blocks) (n : String) :
    hits c blocks (some p) n = hits c blocks none n := by
  have hnone : blocks.filter (Opens c p · n) = [] := by
    rw [List.filter_eq_nil_iff]
    intro b hb hopens
    rw [decide_eq_true_iff] at hopens
    obtain ⟨blob, hblob, chunk, hchunk, hlooks, text, htext, -⟩ := hopens
    rw [h b hb blob (mem_hidden?.1 hblob) chunk hchunk hlooks] at htext
    cases htext
  rw [hits, hits, hnone]

/-- A search commutes with a change to blocks that it does not see. -/
theorem byTerms_map_of_alike {change : Block → Block} (h : ∀ b ∈ blocks, Alike c password b (change b))
    (terms : List String) (limit : Nat) :
    byTerms c (blocks.map change) terms password limit = (byTerms c blocks terms password limit).map change := by
  have hrel : List.Forall₂ (fun a b => Alike c password a b ∧ change a = b) blocks (blocks.map change) := by
    rw [List.forall₂_map_right_iff, List.forall₂_same]
    exact fun b hb => ⟨h b hb, rfl⟩
  have hfound := (byTerms_rel (fun _ _ hab => hab.1) hrel terms limit).imp fun _ _ hab => hab.2
  rw [← List.forall₂_map_left_iff, List.forall₂_eq_eq_eq] at hfound
  exact hfound.symm

/-- Fields other than the number and the keywords make no difference to a search: it commutes with any change to them. -/
theorem byTerms_map (change : Block → Block) (hnumber : ∀ b, (change b).number = b.number)
    (hmanual : ∀ b, (change b).manualKeywords = b.manualKeywords)
    (hauto : ∀ b, (change b).autoKeywords = b.autoKeywords) (c : Codec) (blocks : List Block) (terms : List String)
    (password : Option String) (limit : Nat) :
    byTerms c (blocks.map change) terms password limit = (byTerms c blocks terms password limit).map change := by
  apply byTerms_map_of_alike
  intro b _
  have hshown : SameShown b (change b) := by
    refine ⟨(hnumber b).symm, ?_⟩
    intro value
    rw [Block.keywords, Block.keywords, hmanual, hauto]
  refine hshown.alike ?_
  intro blob
  rw [hauto]

/-- A search gives away no more than it may. Without a password only numbers and readable keywords matter, whatever the
codecs are; with one, the tokens made at write time matter too, and payloads still do not; and a password that opens
nothing is as good as none. -/
theorem byTerms_reveals_no_more (terms : List String) (limit : Nat) :
    (∀ (c d : Codec) (as bs : List Block), List.Forall₂ SameShown as bs →
      (byTerms c as terms none limit).map (·.number) = (byTerms d bs terms none limit).map (·.number)) ∧
    (∀ (c : Codec) (p : String) (as bs : List Block), List.Forall₂ (fun a b => SameShown a b ∧ SameTokens a b) as bs →
      (byTerms c as terms (some p) limit).map (·.number) = (byTerms c bs terms (some p) limit).map (·.number)) ∧
    (∀ (c : Codec) (password : Option String) (blocks : List Block) (data : Block → String),
      byTerms c (blocks.map fun b => { b with data := data b }) terms password limit =
        (byTerms c blocks terms password limit).map fun b => { b with data := data b }) ∧
    (∀ (c : Codec) (p : String) (blocks : List Block), OpensNothing c p blocks →
      byTerms c blocks terms (some p) limit = byTerms c blocks terms none limit) := by
  refine ⟨?_, ?_, ?_, ?_⟩
  · intro c d as bs h
    rw [byTerms_open_codec d c]
    exact numbers_eq (fun _ _ hab => hab.number) (byTerms_rel (fun _ _ hab => hab.alike_open) h terms limit)
  · intro c p as bs h
    exact numbers_eq (fun _ _ hab => hab.1.number) (byTerms_rel (fun _ _ hab => hab.1.alike hab.2) h terms limit)
  · intro c password blocks data
    exact byTerms_map (fun b => { b with data := data b }) (fun _ => rfl) (fun _ => rfl) (fun _ => rfl) c blocks terms
      password limit
  · intro c p blocks h
    simp only [byTerms_eq_take_findable, findable, funext (hits_of_opensNothing h)]

def brokenToken : String := "a.token.of.more.than.three.segments.opens.to.nobody"

def openBlocks : List Block :=
  [{ (default : Block) with number := 7, data := "notes", manualKeywords := [.term "alice"] },
    { (default : Block) with number := 8, data := "minutes", manualKeywords := [.term "bob", .term "Carol"] },
    { (default : Block) with number := 9, data := "plans" }]

def sealedBlocks : List Block :=
  [{ (default : Block) with
      number := 7, data := "c2VhbGVk", encrypted := true, hash := "00", previousHash := "11"
      manualKeywords := [.token "bob", .term "alice", .term "alice"], autoKeywords := [.token brokenToken] },
    { (default : Block) with
      number := 8, encrypted := true, manualKeywords := [.term "Carol"], autoKeywords := [.token brokenToken, .term "bob"] },
    { (default : Block) with number := 9, encrypted := true, autoKeywords := [.token brokenToken, .token brokenToken] }]

def rehashedBlocks : List Block := sealedBlocks.map fun b => { b with hash := "22" }

def sampleTerms : List String := [" Alice", "nobody", "CAROL "]

private theorem sameShown_sample : List.Forall₂ SameShown openBlocks sealedBlocks := by
  have hmanual : (default : Block).manualKeywords = [] := rfl
  have hauto : (default : Block).autoKeywords = [] := rfl
  refine .cons ⟨rfl, ?_⟩ (.cons ⟨rfl, ?_⟩ (.cons ⟨rfl, ?_⟩ .nil))
  all_goals
    intro value
    simp [Block.keywords, hmanual, hauto, or_comm]

private theorem opensNothing_sample : OpensNothing (.ofCipher .forKeywords) "pw" sealedBlocks := by
  intro b hb blob hblob chunk hchunk _
  have hbroken : blob = brokenToken := by
    simp only [sealedBlocks, List.mem_cons, List.not_mem_nil, or_false] at hb
    rcases hb with rfl | rfl | rfl <;> simpa using hblob
  have hwords : Text.words brokenToken = [brokenToken] := by decide +kernel
  rw [hbroken, hwords, List.mem_singleton] at hchunk
  rw [hchunk]
  rfl

/-- Such blocks are found alike without a password, under any codecs, and the wrong password changes nothing. -/
theorem sample_reveals_no_more : List.Forall₂ SameShown openBlocks sealedBlocks ∧
    (byTerms (.ofCipher .forKeywords) openBlocks sampleTerms none 2).map (·.number) =
      (byTerms (.ofCipher .forPayloads) sealedBlocks sampleTerms none 2).map (·.number) ∧
    List.Forall₂ (fun a b => SameShown a b ∧ SameTokens a b) sealedBlocks rehashedBlocks ∧
    (byTerms (.ofCipher .forKeywords) sealedBlocks sampleTerms (some "pw") 2).map (·.number) =
      (byTerms (.ofCipher .forKeywords) rehashedBlocks sampleTerms (some "pw") 2).map (·.number) ∧
    OpensNothing (.ofCipher .forKeywords) "pw" sealedBlocks ∧
    byTerms (.ofCipher .forKeywords) sealedBlocks sampleTerms (some "pw") 2 =
      byTerms (.ofCipher .forKeywords) sealedBlocks sampleTerms none 2 ∧
    (byTerms (.ofCipher .forKeywords) openBlocks sampleTerms none 2).map (·.number) = [7, 8] := by
  obtain ⟨hopen, hpassword, -, hnothing⟩ := byTerms_reveals_no_more sampleTerms 2
  have htokens : List.Forall₂ (fun a b => SameShown a b ∧ SameTokens a b) sealedBlocks rehashedBlocks := by
    rw [rehashedBlocks, List.forall₂_map_right_iff, List.forall₂_same]
    exact fun _ _ => ⟨⟨rfl, fun _ => Iff.rfl⟩, fun _ => Iff.rfl⟩
  exact ⟨sameShown_sample, hopen _ _ _ _ sameShown_sample, htokens, hpassword _ _ _ _ htokens, opensNothing_sample,
    hnothing _ _ _ opensNothing_sample, by decide +kernel⟩

end TieredLedger.Search
