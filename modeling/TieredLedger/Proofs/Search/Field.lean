import TieredLedger.Proofs.Keyword
import TieredLedger.Proofs.Search.Secrecy

/-! Searching blocks whose keywords went through the keyword field of older ledgers. The keywords are not the same after
it, since a token of several chunks comes back as several tokens, but a search finds the same blocks. -/
namespace TieredLedger

namespace Keyword

/-- What a field keeps for a search: a term that is one word, or a token with no chunk that is marked as a term. -/
def Searchable : Keyword → Prop
  | term value => Text.IsWord value
  | token blob => ∀ chunk ∈ Text.words blob, ¬ Marked chunk

instance : DecidablePred Searchable
  | term value => inferInstanceAs (Decidable (Text.IsWord value))
  | token blob => inferInstanceAs (Decidable (∀ chunk ∈ Text.words blob, ¬ Marked chunk))

def throughField (ks : List Keyword) : List Keyword := parseField (renderField ks)

def chunked : Keyword → List Keyword
  | term value => [term value]
  | token blob => (Text.words blob).map token

private theorem Searchable.parseField_inField {k : Keyword} (h : k.Searchable) : parseField k.inField = k.chunked := by
  cases k with
  | term value => exact Canonical.parseField_inField (k := term value) h
  | token blob =>
    rw [inField, parseField_eq, chunked]
    exact List.map_congr_left fun chunk hchunk => ofWord_of_not_marked (h chunk hchunk)

private theorem throughField_eq_flatMap {ks : List Keyword} (h : ∀ k ∈ ks, k.Searchable) :
    throughField ks = ks.flatMap chunked := by
  rw [throughField, parseField_renderField]
  exact List.flatMap_congr fun k hk => (h k hk).parseField_inField

private theorem filterMap_shown_chunked (ks : List Keyword) :
    (ks.flatMap chunked).filterMap shown? = ks.filterMap shown? := by
  induction ks with
  | nil => rfl
  | cons k ks ih =>
    rw [List.flatMap_cons, List.filterMap_append, ih]
    cases k with
    | term value => rfl
    | token blob =>
      have hnone : (chunked (token blob)).filterMap shown? = [] := by
        rw [chunked, List.filterMap_map, List.filterMap_eq_nil_iff]
        exact fun _ _ => rfl
      rw [hnone]
      rfl

private theorem filterMap_hidden_chunked (ks : List Keyword) :
    (ks.flatMap chunked).filterMap hidden? = (ks.filterMap hidden?).flatMap Text.words := by
  induction ks with
  | nil => rfl
  | cons k ks ih =>
    rw [List.flatMap_cons, List.filterMap_append, ih]
    cases k with
    | term value => rfl
    | token blob =>
      have hchunks : (chunked (token blob)).filterMap hidden? = Text.words blob := by
        rw [chunked, List.filterMap_map]
        exact List.filterMap_some
      rw [hchunks]
      rfl

end Keyword

def Block.throughField (b : Block) : Block :=
  { b with
    manualKeywords := Keyword.throughField b.manualKeywords, autoKeywords := Keyword.throughField b.autoKeywords }

namespace Search

def chunks (b : Block) : List String := (b.autoKeywords.filterMap Keyword.hidden?).flatMap Text.words

variable {c : Codec} {p : String} {password : Option String} {a b : Block} {blocks : List Block}

private theorem opens_iff_chunks {n : String} : Opens c p b n ↔ ∃ chunk ∈ chunks b, c.looksEncrypted chunk = true ∧
    ∃ text ∈ c.decrypt chunk p, ∃ word ∈ Text.words text, Text.lowercase word = n := by
  simp only [Opens, chunks, List.mem_flatMap]
  constructor
  · rintro ⟨blob, hblob, chunk, hchunk, hopens⟩
    exact ⟨chunk, ⟨blob, hblob, hchunk⟩, hopens⟩
  · rintro ⟨chunk, ⟨blob, hblob, hchunk⟩, hopens⟩
    exact ⟨blob, hblob, chunk, hchunk, hopens⟩

private theorem chunks_throughField (h : ∀ k ∈ b.autoKeywords, k.Searchable) : chunks b.throughField = chunks b := by
  rw [chunks, Block.throughField, Keyword.throughField_eq_flatMap h, Keyword.filterMap_hidden_chunked, List.flatMap_assoc,
    chunks]
  exact List.flatMap_congr fun blob _ => Text.flatMap_words_words blob

private theorem alike_throughField (h : ∀ k ∈ b.keywords, k.Searchable) : Alike c password b b.throughField := by
  have hmanual : ∀ k ∈ b.manualKeywords, k.Searchable := fun k hk => h k (List.mem_append_left _ hk)
  have hauto : ∀ k ∈ b.autoKeywords, k.Searchable := fun k hk => h k (List.mem_append_right _ hk)
  refine ⟨rfl, fun n => ?_, fun p _ n => ?_⟩
  · rw [Shows, Shows, Block.throughField, Keyword.throughField_eq_flatMap hmanual, Keyword.throughField_eq_flatMap hauto,
      ← List.flatMap_append, Keyword.filterMap_shown_chunked]
  · rw [opens_iff_chunks, opens_iff_chunks, chunks_throughField hauto]

/-- A search finds the same blocks in the same order before and after their keywords went through fields. -/
theorem byTerms_throughField (h : ∀ b ∈ blocks, ∀ k ∈ b.keywords, k.Searchable) (c : Codec) (terms : List String)
    (password : Option String) (limit : Nat) :
    byTerms c (blocks.map Block.throughField) terms password limit =
        (byTerms c blocks terms password limit).map Block.throughField ∧
      (byTerms c (blocks.map Block.throughField) terms password limit).map (·.number) =
        (byTerms c blocks terms password limit).map (·.number) := by
  have hfound : byTerms c (blocks.map Block.throughField) terms password limit =
      (byTerms c blocks terms password limit).map Block.throughField :=
    byTerms_map_of_alike (fun b hb => alike_throughField (h b hb)) terms limit
  refine ⟨hfound, ?_⟩
  rw [hfound, List.map_map]
  rfl

/-- A block with a token of two chunks, an empty one, and one that is a mark with nothing after it. -/
def mixedBlock : Block :=
  { (default : Block) with
    number := 3, manualKeywords := [.term "Alice", .token ""]
    autoKeywords := [.token " first.token  second.token ", .token "public:", .term "bob"] }

/-- Its keywords are not the same after fields, and still it is found alike. -/
theorem byTerms_throughField_mixed :
    mixedBlock.throughField.autoKeywords =
        [.token "first.token", .token "second.token", .token "public:", .term "bob"] ∧
      (∀ b ∈ [mixedBlock], ∀ k ∈ b.keywords, k.Searchable) ∧
      (byTerms (.ofCipher .forKeywords) ([mixedBlock].map Block.throughField) ["ALICE", "carol"] (some "pw") 5).map
          (·.number) =
        (byTerms (.ofCipher .forKeywords) [mixedBlock] ["ALICE", "carol"] (some "pw") 5).map (·.number) := by
  have hkeywords : ∀ b ∈ [mixedBlock], ∀ k ∈ b.keywords, k.Searchable := by decide +kernel
  refine ⟨by decide +kernel, hkeywords, ?_⟩
  exact (byTerms_throughField hkeywords _ _ _ _).2

end Search

end TieredLedger
