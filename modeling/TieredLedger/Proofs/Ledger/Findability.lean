import Mathlib.Data.List.Forall2
import Mathlib.Data.List.Nodup
import Mathlib.Data.List.Perm.Subperm
import TieredLedger.Proofs.Bytes
import TieredLedger.Proofs.Ledger.Indexing
import TieredLedger.Proofs.Token

/-! Writing and searching agree: after any run of encrypted entries, a term finds the blocks whose entries list it. -/
namespace TieredLedger

namespace Search

variable {c : Codec} {blocks found : List Block} {password : Option String} {n : String} {b : Block}

/-- A block shows a normal form, or a given password opens it to that form. -/
def Matches (c : Codec) (password : Option String) (b : Block) (n : String) : Prop :=
  Shows b n ∨ ∃ p, password = some p ∧ Opens c p b n

private theorem mem_hits : b ∈ hits c blocks password n ↔ b ∈ blocks ∧ Matches c password b n := by
  cases password with
  | none => simp [hits, Matches]
  | some p => simp [hits, Matches, and_or_left]

/-- Among blocks with numbers of their own, keeping the first of each number drops none. -/
theorem mem_firsts_of_subset (hnumbers : (blocks.map (·.number)).Nodup) (hsub : found ⊆ blocks) :
    b ∈ firsts found ↔ b ∈ found := by
  refine ⟨mem_firsts, fun hb => ?_⟩
  obtain ⟨d, hd, hnumber⟩ := List.mem_map.1 ((number_mem_firsts found b.number).2 (List.mem_map_of_mem hb))
  have hsame : d = b := List.inj_on_of_nodup_map hnumbers (hsub (mem_firsts hd)) (hsub hb) hnumber
  rwa [← hsame]

private theorem length_firsts_le (hsub : found ⊆ blocks) : (firsts found).length ≤ blocks.length := by
  have hnumbers : (firsts found).map (·.number) ⊆ blocks.map (·.number) :=
    List.map_subset _ fun b hb => hsub (mem_firsts hb)
  simpa using ((nodup_firsts found).subperm hnumbers).length_le

/-- With room for all blocks, one term finds the blocks that match it. -/
theorem mem_byTerms_singleton (hnumbers : (blocks.map (·.number)).Nodup) {limit : Nat} (hroom : blocks.length ≤ limit)
    {t : String} (ht : Term.normal t ≠ "") :
    b ∈ byTerms c blocks [t] password limit ↔ b ∈ blocks ∧ Matches c password b (Term.normal t) := by
  have hsub : hits c blocks password (Term.normal t) ⊆ blocks := fun d hd => (mem_hits.1 hd).1
  have hgiven : findable c blocks [t] password = firsts (hits c blocks password (Term.normal t)) := by
    simp [findable, ht]
  rw [byTerms_eq_take_findable, hgiven, List.take_of_length_le ((length_firsts_le hsub).trans hroom),
    mem_firsts_of_subset hnumbers hsub, mem_hits]

end Search

namespace Ledger

/-- Every block has its place for a number. -/
def Numbered (blocks : List Block) : Prop :=
  blocks.map (·.number) = (List.range blocks.length).map UInt64.ofNat

/-- The next block has the next place for a number. -/
theorem Numbered.number_nextBlock {blocks : List Block} (h : Numbered blocks) (data : String) (now : Instant) :
    (nextBlock blocks data now).number = UInt64.ofNat blocks.length := by
  rcases List.eq_nil_or_concat blocks with rfl | ⟨front, last, rfl⟩
  · rfl
  rw [List.concat_eq_append] at h ⊢
  rw [Numbered, List.length_append, List.length_singleton, List.range_succ, List.map_append, List.map_append] at h
  have hlast : last.number = UInt64.ofNat front.length := by
    simpa using (List.append_inj h (by simp)).2
  have hnext : (nextBlock (front ++ [last]) data now).number = last.number + 1 := by
    rw [nextBlock, List.getLast?_concat]
    rfl
  rw [hnext, hlast, List.length_append, List.length_singleton, UInt64.ofNat_add]
  rfl

/-- Blocks stay numbered when one with the next number is added. -/
theorem Numbered.append_singleton {blocks : List Block} (h : Numbered blocks) {b : Block}
    (hb : b.number = UInt64.ofNat blocks.length) : Numbered (blocks ++ [b]) := by
  rw [Numbered, List.length_append, List.length_singleton, List.range_succ, List.map_append, List.map_append, h]
  simp [hb]

/-- A chain that a word can count repeats no number. -/
theorem Numbered.nodup {blocks : List Block} (h : Numbered blocks) (hsize : blocks.length ≤ UInt64.size) :
    (blocks.map (·.number)).Nodup := by
  rw [h]
  refine List.Nodup.map_on ?_ List.nodup_range
  intro i hi j hj hij
  rw [List.mem_range] at hi hj
  have hnat := congrArg UInt64.toNat hij
  rwa [UInt64.toNat_ofNat_of_lt' (hi.trans_le hsize), UInt64.toNat_ofNat_of_lt' (hj.trans_le hsize)] at hnat

/-- The ledger after the blocks of entries are added one after another, if none is refused. -/
def appendAll (l : Ledger) : List Entry → Except LedgerError Ledger
  | [] => .ok l
  | e :: entries =>
    match e.append l with
    | (.ok _, l') => appendAll l' entries
    | (.error fault, _) => .error fault

/-- An entry says by which terms a search with any password finds a block, and all of them are single words. -/
structure Entry.Describes (e : Entry) (c : Codec) (b : Block) : Prop where
  isWord : ∀ n ≠ "", ∀ v, e.Lists n v → Text.IsWord n
  finds : ∀ n ≠ "", ∀ password, Search.Matches c password b n ↔ e.FoundBy n password

private theorem describes_of_sealed {l : Ledger} {e : Entry} {b : Block} (hc : l.codec.Faithful)
    (hne : l.codec.NoEmptyToken) (h : e.sealed l = .ok b) : e.Describes l.codec b := by
  refine ⟨fun n hn v hlists => ?_, fun n hn password => ?_⟩
  · obtain ⟨-, _, _, _, hset, -⟩ := sealed_eq_ok.1 h
    obtain ⟨⟨term, hterm, rfl⟩, _⟩ := hlists
    exact isWord_of_normalTerms hset term hterm hn
  · simp only [Search.Matches, shows_sealed h hn, opens_sealed hc hne h hn, Entry.FoundBy]
    refine or_congr_right ⟨?_, ?_⟩
    · rintro ⟨p, rfl, hlists, rfl⟩
      exact ⟨hlists, rfl⟩
    · rintro ⟨hlists, rfl⟩
      exact ⟨e.password, rfl, hlists, rfl⟩

private theorem Numbered.push_sealed {l : Ledger} {e : Entry} {b : Block} (hl : Numbered l.blocks)
    (h : e.sealed l = .ok b) :
    Numbered (l.push b).blocks := by
  obtain ⟨-, _, _, ciphertext, -, -, -, rfl⟩ := sealed_eq_ok.1 h
  exact hl.append_singleton (hl.number_nextBlock ciphertext e.now)

/-- What a run of entries does to a ledger. -/
theorem appendAll_describes {l l' : Ledger} {entries : List Entry} (hc : l.codec.Faithful)
    (hne : l.codec.NoEmptyToken) (h : l.appendAll entries = .ok l') :
    l'.codec = l.codec ∧ (Numbered l.blocks → Numbered l'.blocks) ∧
      ∃ added, l'.blocks = l.blocks ++ added ∧ List.Forall₂ (fun e b => e.Describes l.codec b) entries added := by
  induction entries generalizing l with
  | nil =>
    cases h
    exact ⟨rfl, id, [], by rw [List.append_nil], .nil⟩
  | cons e entries ih =>
    rw [appendAll, append_apply] at h
    cases hsealed : e.sealed l with
    | error fault =>
      rw [hsealed] at h
      cases h
    | ok b =>
      rw [hsealed] at h
      obtain ⟨hcodec, hnumbered, added, hblocks, hadded⟩ := ih (l := l.push b) hc hne h
      refine ⟨hcodec, fun hl => hnumbered (hl.push_sealed hsealed), b :: added, ?_,
        .cons (describes_of_sealed hc hne hsealed) hadded⟩
      rw [hblocks, push, List.append_assoc, List.singleton_append]

variable {codec : Codec} {now : Instant} {entries : List Entry} {l : Ledger}

/-- A new ledger is numbered. -/
theorem numbered_create : Numbered (create codec now).blocks := rfl

/-- No term finds the first block of a ledger. -/
theorem not_matches_create {c : Codec} {password : Option String} {n : String} :
    ∀ b ∈ (create codec now).blocks, ¬ Search.Matches c password b n := by
  intro b hb
  rw [create, List.mem_singleton] at hb
  subst hb
  rintro (⟨value, hvalue, -⟩ | ⟨p, -, blob, hblob, -⟩)
  · cases hvalue
  · cases hblob

/-- After a run of entries, each block but the first is in the place of the entry that describes it. -/
theorem describes_of_place (hc : codec.Faithful) (hne : codec.NoEmptyToken)
    (h : (create codec now).appendAll entries = .ok l) {i : Nat} {e : Entry} {b : Block}
    (he : entries[i]? = some e) (hb : l.blocks[i + 1]? = some b) : e.Describes codec b := by
  obtain ⟨-, -, added, hblocks, hadded⟩ := appendAll_describes hc hne h
  rw [hblocks] at hb
  change added[i]? = some b at hb
  obtain ⟨hi, rfl⟩ := List.getElem?_eq_some_iff.1 he
  obtain ⟨hj, rfl⟩ := List.getElem?_eq_some_iff.1 hb
  exact hadded.get hi hj

private theorem exists_place (hc : codec.Faithful) (hne : codec.NoEmptyToken)
    (h : (create codec now).appendAll entries = .ok l) {b : Block} (hb : b ∈ l.blocks) :
    b ∈ (create codec now).blocks ∨ ∃ i e, entries[i]? = some e ∧ l.blocks[i + 1]? = some b := by
  obtain ⟨-, -, added, hblocks, hadded⟩ := appendAll_describes hc hne h
  rw [hblocks, List.mem_append] at hb
  refine hb.imp_right fun hb => ?_
  obtain ⟨i, hi, rfl⟩ := List.mem_iff_getElem.1 hb
  have hentry : i < entries.length := hadded.length_eq ▸ hi
  refine ⟨i, entries[i], List.getElem?_eq_getElem hentry, ?_⟩
  rw [hblocks]
  exact List.getElem?_eq_getElem hi

/-- The blocks that match a normal form are those whose entries list it. -/
theorem matches_iff_foundBy (hc : codec.Faithful) (hne : codec.NoEmptyToken)
    (h : (create codec now).appendAll entries = .ok l) {b : Block} {n : String} (hn : n ≠ "")
    (password : Option String) :
    b ∈ l.blocks ∧ Search.Matches codec password b n ↔
      ∃ i e, entries[i]? = some e ∧ l.blocks[i + 1]? = some b ∧ e.FoundBy n password := by
  constructor
  · rintro ⟨hb, hmatches⟩
    rcases exists_place hc hne h hb with hfirst | ⟨i, e, he, hplace⟩
    · exact absurd hmatches (not_matches_create b hfirst)
    · exact ⟨i, e, he, hplace, ((describes_of_place hc hne h he hplace).finds n hn password).1 hmatches⟩
  · rintro ⟨i, e, he, hplace, hfound⟩
    exact ⟨List.mem_of_getElem? hplace, ((describes_of_place hc hne h he hplace).finds n hn password).2 hfound⟩

/-- A term that finds a described block is a single word. -/
theorem Entry.Describes.isWord_of_foundBy {e : Entry} {c : Codec} {b : Block} {n : String} {password : Option String}
    (h : e.Describes c b) (hn : n ≠ "") (hfound : e.FoundBy n password) : Text.IsWord n := by
  rcases hfound with hlists | ⟨hlists, -⟩
  · exact h.isWord n hn _ hlists
  · exact h.isWord n hn _ hlists

/-- After any run of entries, a search for one term with room for every block finds exactly the blocks whose entries
list the term, to anyone or under the given password, and finds each of them once. -/
theorem search_finds_entries (hc : codec.Faithful) (hne : codec.NoEmptyToken)
    (h : (create codec now).appendAll entries = .ok l) {t : String} (ht : Term.normal t ≠ "")
    (password : Option String) (limit : UInt64) (hroom : l.size ≤ limit.toNat) :
    ∃ found, Search.inSource l.codec l.source [t] password limit.toNat = .ok found ∧
      (found.map (·.number)).Nodup ∧
      (∀ b, b ∈ found ↔
        ∃ i e, entries[i]? = some e ∧ l.blocks[i + 1]? = some b ∧ e.FoundBy (Term.normal t) password) ∧
      (Text.hasBlank (Term.normal t) = true → found = []) := by
  obtain ⟨hcodec, hnumbered, -⟩ := appendAll_describes hc hne h
  have hsize : l.blocks.length ≤ UInt64.size := hroom.trans limit.toNat_lt.le
  have hmem : ∀ b, b ∈ Search.byTerms l.codec l.blocks [t] password limit.toNat ↔
      ∃ i e, entries[i]? = some e ∧ l.blocks[i + 1]? = some b ∧ e.FoundBy (Term.normal t) password := by
    intro b
    rw [Search.mem_byTerms_singleton ((hnumbered numbered_create).nodup hsize) hroom ht, hcodec]
    exact matches_iff_foundBy hc hne h ht password
  refine ⟨Search.byTerms l.codec l.blocks [t] password limit.toNat, rfl, ?_, hmem, fun hblank => ?_⟩
  · rw [Search.byTerms_eq_take_findable]
    exact (Search.nodup_firsts _).sublist ((List.take_sublist _ _).map _)
  · rw [List.eq_nil_iff_forall_not_mem]
    intro b hb
    obtain ⟨i, e, he, hplace, hfound⟩ := (hmem b).1 hb
    have hword := (describes_of_place hc hne h he hplace).isWord_of_foundBy ht hfound
    rw [hword.2] at hblank
    cases hblank

end Ledger

/-- The plainest faithful codec: password and text in hexadecimal, with a dot between them. -/
def Codec.plain : Codec where
  encrypt _ text password := .ok (Bytes.hex (Bytes.ofText password) ++ "." ++ Bytes.hex (Bytes.ofText text))
  decrypt token password :=
    match Text.pieces (· = '.') token.toList with
    | [first, second] =>
      if String.ofList first = Bytes.hex (Bytes.ofText password) then
        (Bytes.ofHex? (String.ofList second)).bind Utf8.text?
      else none
    | _ => none
  looksEncrypted word := word.toList.contains '.'

private theorem pieces_plain (as bs : Bytes) :
    Text.pieces (· = '.') (Bytes.hex as ++ "." ++ Bytes.hex bs).toList = [(Bytes.hex as).toList, (Bytes.hex bs).toList] := by
  have hclear : ∀ cs : Bytes, ∀ c ∈ (Bytes.hex cs).toList, decide (c = '.') = false := by
    intro cs c hc
    have hdigit := Bytes.mem_hexDigits_of_mem_hex hc
    rw [decide_eq_false_iff_not]
    rintro rfl
    revert hdigit
    decide
  have hlist : (Bytes.hex as ++ "." ++ Bytes.hex bs).toList =
      (Bytes.hex as).toList ++ '.' :: (Bytes.hex bs).toList := by simp
  rw [hlist, Text.pieces_append_separator _ (hclear as) rfl, Text.pieces_of_clear (hclear bs)]

private theorem Codec.faithful_plain : Codec.plain.Faithful where
  looks h := by
    cases h
    simp [Codec.plain]
  spaceless h := by
    cases h
    have hdigits : ∀ d ∈ '.' :: Bytes.hexDigits, Text.isBlank d = false :=
      List.all_iff_forall_prop.1 (by decide)
    rw [Text.hasBlank, List.any_eq_false]
    intro c hc
    rw [Bool.not_eq_true]
    simp only [String.toList_append, List.mem_append] at hc
    rcases hc with (hc | hc) | hc
    · exact hdigits c (List.mem_cons_of_mem _ (Bytes.mem_hexDigits_of_mem_hex hc))
    · exact hdigits c (List.mem_cons.2 (Or.inl (List.mem_singleton.1 hc)))
    · exact hdigits c (List.mem_cons_of_mem _ (Bytes.mem_hexDigits_of_mem_hex hc))
  opens {_ text password _} h := by
    cases h
    intro q
    have hread : (Bytes.ofHex? (Bytes.hex (Bytes.ofText text))).bind Utf8.text? = some text := by
      rw [Bytes.ofHex?_hex, Option.bind_some, Utf8.text?, Utf8.decode_ofText]
      rfl
    simp only [Codec.plain, pieces_plain, String.ofList_toList, hread, Bytes.hex_inj, Bytes.ofText_inj]
    simp only [eq_comm]

private theorem Codec.noEmptyToken_plain : Codec.plain.NoEmptyToken := by
  rintro _ _ _ _ h rfl
  cases Codec.faithful_plain.looks h

namespace Ledger

def sampleEntry : Entry where
  data := "meeting notes"
  password := "secret"
  terms := ["Alice"]
  visibility := .hideAll
  keywordDraw := default
  payloadDraw := default
  now := default

private theorem exists_sealed_sample {l : Ledger} {auto : List Keyword}
    (hauto : tokenKeywords l.codec default "secret" ["alice"] = .ok auto) :
    ∃ b, sampleEntry.sealed l = .ok b ∧ b.autoKeywords = auto := by
  have hterms : normalTerms sampleEntry.terms = .ok ((∅ : TermSet).insert "alice") := by
    have hnormal : Term.normal "Alice" = "alice" := by decide +kernel
    have hword : Text.hasBlank "alice" = false := by decide
    simp only [normalTerms, addTerm, sampleEntry, List.foldlM_cons, List.foldlM_nil, hnormal, hword]
    rfl
  have hhidden : sampleEntry.visibility.select .hidden ((∅ : TermSet).insert "alice") = ["alice"] := by decide +kernel
  obtain ⟨ciphertext, hciphertext⟩ := TokenCipher.exists_encrypt (c := payloadCipher) (Nat.le_refl _) default
    (Bytes.ofText "meeting notes") "secret"
  exact ⟨_, sealed_eq_ok.2 ⟨by decide, _, auto, ciphertext, hterms, hhidden ▸ hauto, hciphertext, rfl⟩, rfl⟩

private theorem appendAll_sample {l : Ledger} {b : Block} (h : sampleEntry.sealed l = .ok b) :
    l.appendAll [sampleEntry] = .ok (l.push b) := by
  rw [appendAll, append_apply, h]
  rfl

private theorem sampleEntry_foundBy : sampleEntry.FoundBy (Term.normal " ALICE") (some "secret") := by
  refine Or.inr ⟨⟨⟨"Alice", List.mem_singleton_self _, by decide +kernel⟩, ?_⟩, rfl⟩
  simp [VisibilityMap.visibilityOf, sampleEntry, VisibilityMap.hideAll, VisibilityMap.uniform]

/-- The sample entry is found, in another spelling of its term, by its password. -/
theorem search_finds_sample : ∃ l found, (create .plain default).appendAll [sampleEntry] = .ok l ∧
    Search.inSource l.codec l.source [" ALICE"] (some "secret") (9 : UInt64).toNat = .ok found ∧
      ∃ b, l.blocks[1]? = some b ∧ b ∈ found := by
  obtain ⟨b, hsealed, -⟩ := exists_sealed_sample (l := create .plain default) rfl
  have happend := appendAll_sample hsealed
  obtain ⟨found, hfound, -, hmem, -⟩ := search_finds_entries Codec.faithful_plain Codec.noEmptyToken_plain happend
    (t := " ALICE") (by decide +kernel) (some "secret") 9 (Nat.le_of_ble_eq_true rfl)
  exact ⟨_, found, happend, hfound, b, rfl, (hmem b).2 ⟨0, sampleEntry, rfl, rfl, sampleEntry_foundBy⟩⟩

end Ledger

/-- The plain codec, save that it seals one text under one password as the empty text and takes that for a token. -/
def Codec.hollow : Codec where
  encrypt draw text password :=
    if text = "alice" ∧ password = "secret" then .ok "" else Codec.plain.encrypt draw text password
  decrypt token password :=
    if token = "" then if password = "secret" then some "alice" else none else Codec.plain.decrypt token password
  looksEncrypted word := word = "" || Codec.plain.looksEncrypted word

private theorem Codec.encrypt_hollow {draw : Draw} {text password token : String}
    (h : Codec.hollow.encrypt draw text password = .ok token) : (text = "alice" ∧ password = "secret") ∧ token = "" ∨
      token ≠ "" ∧ Codec.plain.encrypt draw text password = .ok token := by
  change (if text = "alice" ∧ password = "secret" then _ else _) = _ at h
  by_cases hsealed : text = "alice" ∧ password = "secret"
  · rw [if_pos hsealed, Except.ok.injEq] at h
    exact Or.inl ⟨hsealed, h.symm⟩
  · rw [if_neg hsealed] at h
    exact Or.inr ⟨Codec.noEmptyToken_plain h, h⟩

private theorem Codec.faithful_hollow : Codec.hollow.Faithful where
  looks h := by
    rcases Codec.encrypt_hollow h with ⟨-, rfl⟩ | ⟨hne, hplain⟩
    · rfl
    · simp [Codec.hollow, Codec.faithful_plain.looks hplain]
  spaceless h := by
    rcases Codec.encrypt_hollow h with ⟨-, rfl⟩ | ⟨-, hplain⟩
    · rfl
    · exact Codec.faithful_plain.spaceless hplain
  opens h q := by
    rcases Codec.encrypt_hollow h with ⟨⟨rfl, rfl⟩, rfl⟩ | ⟨hne, hplain⟩
    · simp [Codec.hollow]
    · simp [Codec.hollow, hne, Codec.faithful_plain.opens hplain]

namespace Ledger

/-- A faithful codec may seal the terms of an entry as the empty text, and then not even its password finds them. -/
theorem empty_token_is_not_found :
    Codec.hollow.Faithful ∧ ∃ l, (create .hollow default).appendAll [sampleEntry] = .ok l ∧
    l.size = 2 ∧ sampleEntry.FoundBy (Term.normal " ALICE") (some "secret") ∧
      Search.inSource l.codec l.source [" ALICE"] (some "secret") (9 : UInt64).toNat = .ok [] := by
  have htoken : tokenKeywords .hollow default "secret" ["alice"] = .ok [.token ""] := rfl
  obtain ⟨b, hsealed, hauto⟩ := exists_sealed_sample (l := create .hollow default) htoken
  have hne : Term.normal " ALICE" ≠ "" := by decide +kernel
  have hlists : ¬ sampleEntry.Lists (Term.normal " ALICE") .shown := by
    simp [Entry.Lists, VisibilityMap.visibilityOf, sampleEntry, VisibilityMap.hideAll, VisibilityMap.uniform]
  have hnone : ∀ d ∈ ((create .hollow default).push b).blocks,
      ¬ Search.Matches .hollow (some "secret") d (Term.normal " ALICE") := by
    intro d hd
    rcases List.mem_append.1 hd with hd | hd
    · exact not_matches_create d hd
    obtain rfl := List.mem_singleton.1 hd
    rintro (hshows | ⟨p, -, hopens⟩)
    · exact hlists ((shows_sealed hsealed hne).1 hshows)
    · rw [Search.Opens, hauto] at hopens
      obtain ⟨blob, hblob, chunk, hchunk, -⟩ := hopens
      obtain rfl := List.mem_singleton.1 hblob
      cases hchunk
  refine ⟨Codec.faithful_hollow, _, appendAll_sample hsealed, rfl, sampleEntry_foundBy, ?_⟩
  have hnumbers := (numbered_create.push_sealed hsealed).nodup (Nat.le_of_ble_eq_true rfl)
  refine congrArg Except.ok (List.eq_nil_iff_forall_not_mem.2 fun d hd => ?_)
  obtain ⟨hd, hmatches⟩ := (Search.mem_byTerms_singleton hnumbers (Nat.le_of_ble_eq_true rfl) hne).1 hd
  exact hnone d hd hmatches

end Ledger

end TieredLedger
