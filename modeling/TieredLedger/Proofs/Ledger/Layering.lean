import Mathlib.Data.List.Sort
import TieredLedger.Proofs.Ledger.Growth

/-! The two layers of an encrypted block's index. Each term of an entry lands in one of them, in the open or in the
token, and an entry that is refused leaves the ledger as it was. -/
namespace TieredLedger

namespace Ledger

/-- The normal forms of an entry's terms that have a visibility: in the order of their bytes, each once, none empty. -/
structure Entry.Layer (e : Entry) (v : Visibility) (layer : List String) : Prop where
  sorted : layer.Pairwise fun s t => Bytes.ofText s < Bytes.ofText t
  mem : ∀ n, n ∈ layer ↔ n ≠ "" ∧ e.Lists n v

variable {l l' : Ledger} {e : Entry} {b : Block} {v : Visibility} {layer shown hidden : List String}

private theorem Entry.layer_select {set : TermSet}
    (hset : ∀ n, n ∈ set ↔ n ≠ "" ∧ ∃ term ∈ e.terms, Term.normal term = n) (v : Visibility) :
    e.Layer v (e.visibility.select v set) := by
  refine ⟨VisibilityMap.sorted_select _ _ _, fun n => ?_⟩
  rw [VisibilityMap.mem_select, hset, and_assoc, Entry.Lists]

private theorem Entry.exists_layer (e : Entry) (v : Visibility) : ∃ layer, e.Layer v layer := by
  let forms : TermSet := Std.TreeSet.ofList ((e.terms.map Term.normal).filter (· ≠ ""))
  have hforms : ∀ n, n ∈ forms ↔ n ≠ "" ∧ ∃ term ∈ e.terms, Term.normal term = n := by
    intro n
    rw [Std.TreeSet.mem_ofList, List.contains_iff_mem, List.mem_filter, List.mem_map, decide_eq_true_iff, and_comm]
  exact ⟨_, Entry.layer_select hforms v⟩

namespace Entry.Layer

/-- The order and the members leave one list. -/
theorem unique {other : List String} (h : e.Layer v layer) (ho : e.Layer v other) : layer = other := by
  have hirrefl : Std.Irrefl fun s t : String => Bytes.ofText s < Bytes.ofText t := ⟨fun s => List.lt_irrefl _⟩
  have hantisymm : Std.Antisymm fun s t : String => Bytes.ofText s < Bytes.ofText t :=
    ⟨fun s t hst hts => absurd hts (List.lt_asymm hst)⟩
  exact h.sorted.eq_of_mem_iff ho.sorted fun n => (h.mem n).trans (ho.mem n).symm

private theorem map_ofTerm (h : e.Layer v layer) : layer.map Keyword.ofTerm = layer.map Keyword.term := by
  apply List.map_congr_left
  intro n hn
  obtain ⟨-, ⟨term, -, rfl⟩, -⟩ := (h.mem n).1 hn
  exact congrArg Keyword.term (Term.normal_normal term)

/-- A term that is not blank is in the layer of its visibility and not in the other. -/
theorem xor (hshown : e.Layer .shown shown) (hhidden : e.Layer .hidden hidden) {term : String} (hterm : term ∈ e.terms)
    (hne : Term.normal term ≠ "") : Xor (Term.normal term ∈ shown) (Term.normal term ∈ hidden) := by
  have hmem : ∀ v, (Term.normal term ≠ "" ∧ e.Lists (Term.normal term) v) ↔
      e.visibility.visibilityOf (Term.normal term) = v := by
    intro v
    rw [and_iff_right hne, Entry.Lists, and_iff_right ⟨term, hterm, rfl⟩]
  rw [hshown.mem, hhidden.mem, hmem, hmem]
  cases e.visibility.visibilityOf (Term.normal term) with
  | shown => exact Or.inl ⟨rfl, fun h => by cases h⟩
  | hidden => exact Or.inr ⟨rfl, fun h => by cases h⟩

end Entry.Layer

/-- A block carries an entry: one layer of its terms in the open, the other in one token, and its data sealed. -/
structure Entry.Indexed (e : Entry) (c : Codec) (shown hidden : List String) (b : Block) : Prop where
  encrypted : b.encrypted = true
  manual : b.manualKeywords = shown.map Keyword.term
  auto : hidden = [] ∧ b.autoKeywords = [] ∨ hidden ≠ [] ∧ ∃ token, b.autoKeywords = [.token token] ∧
    c.encrypt e.keywordDraw (String.intercalate " " hidden) e.password = .ok token
  payload : decryptPayload b e.password = .ok e.data

/-- What an entry is refused for. -/
inductive Entry.Refused (e : Entry) (c : Codec) (hidden : List String) : Prop
  | password (h : e.password = "")
  | spaced {term : String} (h : term ∈ e.terms) (hblank : Text.hasBlank (Term.normal term) = true)
  | token {fault : LedgerError} (hne : hidden ≠ [])
      (h : c.encrypt e.keywordDraw (String.intercalate " " hidden) e.password = .error fault)
  | payload {fault : LedgerError}
      (h : payloadCipher.encrypt e.payloadDraw (Bytes.ofText e.data) e.password = .error fault)

private theorem data_nextBlock (blocks : List Block) (data : String) (now : Instant) :
    (nextBlock blocks data now).data = data := by
  rw [nextBlock]
  split
  · rfl
  · rfl

private theorem decryptPayload_block {set : TermSet} {auto : List Keyword} {ciphertext : String}
    (h : payloadCipher.encrypt e.payloadDraw (Bytes.ofText e.data) e.password = .ok ciphertext) :
    decryptPayload (e.block l set auto ciphertext) e.password = .ok e.data := by
  have hdata : (e.block l set auto ciphertext).data = ciphertext := data_nextBlock l.blocks ciphertext e.now
  have hencrypted : (e.block l set auto ciphertext).encrypted = true := rfl
  rw [decryptPayload, if_pos hencrypted, hdata, TokenCipher.decrypt_of_encrypt h]
  dsimp only
  rw [Utf8.decode_ofText]

private theorem indexed_of_sealed (hshown : e.Layer .shown shown) (hhidden : e.Layer .hidden hidden)
    (h : e.sealed l = .ok b) : e.Indexed l.codec shown hidden b := by
  obtain ⟨-, set, auto, ciphertext, hset, hauto, hpayload, rfl⟩ := sealed_eq_ok.1 h
  have hlayer := Entry.layer_select (mem_normalTerms hset)
  rw [hhidden.unique (hlayer .hidden)]
  refine ⟨rfl, ?_, ?_, decryptPayload_block hpayload⟩
  · rw [Entry.manualKeywords_block, hshown.unique (hlayer .shown)]
    exact (hlayer .shown).map_ofTerm
  · rw [Entry.autoKeywords_block]
    rcases tokenKeywords_eq_ok hauto with hnone | ⟨token, rfl, htoken⟩
    · exact Or.inl hnone
    · right
      refine ⟨?_, token, rfl, htoken⟩
      intro hnil
      rw [hnil] at hauto
      cases hauto

private theorem refused_of_sealed {fault : LedgerError} (hhidden : e.Layer .hidden hidden)
    (h : e.sealed l = .error fault) : e.Refused l.codec hidden := by
  by_cases hpassword : e.password = ""
  · exact .password hpassword
  cases hset : normalTerms e.terms with
  | error spaced =>
    obtain ⟨term, hterm, hblank, -⟩ := spaced_of_normalTerms hset
    exact .spaced hterm hblank
  | ok set =>
    have hselect := hhidden.unique (Entry.layer_select (mem_normalTerms hset) .hidden)
    cases hauto : tokenKeywords l.codec e.keywordDraw e.password (e.visibility.select .hidden set) with
    | error refusal =>
      obtain ⟨hne, htoken⟩ := tokenKeywords_eq_error.1 hauto
      rw [← hselect] at hne htoken
      exact .token hne htoken
    | ok auto =>
      cases hpayload : payloadCipher.encrypt e.payloadDraw (Bytes.ofText e.data) e.password with
      | error refusal => exact .payload hpayload
      | ok ciphertext =>
        rw [sealed_eq_ok.2 ⟨hpassword, set, auto, ciphertext, hset, hauto, hpayload, rfl⟩] at h
        cases h

private theorem not_refused_of_sealed (hhidden : e.Layer .hidden hidden) (h : e.sealed l = .ok b) :
    ¬ e.Refused l.codec hidden := by
  obtain ⟨hpassword, set, auto, ciphertext, hset, hauto, hpayload, -⟩ := sealed_eq_ok.1 h
  intro hrefused
  cases hrefused with
  | password h => exact hpassword h
  | @spaced term hterm hblank =>
    have hne : Term.normal term ≠ "" := by
      intro hempty
      rw [hempty] at hblank
      cases hblank
    have hclear := (isWord_of_normalTerms hset term hterm hne).2
    rw [hblank] at hclear
    cases hclear
  | token hne h =>
    rw [hhidden.unique (Entry.layer_select (mem_normalTerms hset) .hidden)] at hne h
    rw [tokenKeywords_eq_error.2 ⟨hne, h⟩] at hauto
    cases hauto
  | payload h =>
    rw [hpayload] at h
    cases h

/-- An entry is refused for one of these reasons and no other. -/
theorem sealed_eq_error_iff (hhidden : e.Layer .hidden hidden) :
    (∃ fault, e.sealed l = .error fault) ↔ e.Refused l.codec hidden := by
  constructor
  · rintro ⟨fault, h⟩
    exact refused_of_sealed hhidden h
  · intro hrefused
    cases hsealed : e.sealed l with
    | error fault => exact ⟨fault, rfl⟩
    | ok b => exact absurd hrefused (not_refused_of_sealed hhidden hsealed)

/-- Adding an entry. Its terms fall into two layers, none into both; the block that is added carries the one in the
open, the other in one token, and opens to the data; and an entry that is refused adds nothing. -/
theorem append_indexes_in_layers (e : Entry) (l : Ledger) :
    ∃ shown hidden, e.Layer .shown shown ∧ e.Layer .hidden hidden ∧
      (∀ term ∈ e.terms, Term.normal term ≠ "" → Xor (Term.normal term ∈ shown) (Term.normal term ∈ hidden)) ∧
      (∀ b l', e.append l = (.ok b, l') →
        l'.blocks = l.blocks ++ [b] ∧ l'.codec = l.codec ∧ e.Indexed l.codec shown hidden b) ∧
      ((∃ fault l', e.append l = (.error fault, l')) ↔ e.Refused l.codec hidden) ∧
      ∀ fault l', e.append l = (.error fault, l') → l' = l := by
  obtain ⟨shown, hshown⟩ := e.exists_layer .shown
  obtain ⟨hidden, hhidden⟩ := e.exists_layer .hidden
  refine ⟨shown, hidden, hshown, hhidden, fun term => hshown.xor hhidden, ?_, ?_, ?_⟩
  · intro b l' h
    obtain ⟨hsealed, rfl⟩ := append_eq_ok.1 h
    exact ⟨rfl, rfl, indexed_of_sealed hshown hhidden hsealed⟩
  · rw [← sealed_eq_error_iff hhidden]
    simp only [append_eq_error, exists_and_left, exists_eq, and_true]
  · intro fault l' h
    exact (append_eq_error.1 h).2

end Ledger

end TieredLedger
