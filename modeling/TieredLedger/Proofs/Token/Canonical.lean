import TieredLedger.Proofs.Token

/-! Which texts are opened: three segments with a salt, a nonce of the right size and a ciphertext, each written in the one
way that there is. All others are refused before the cipher is asked, and the cipher always gets a key and a nonce of its
sizes. -/
namespace TieredLedger

namespace Text

/-- Pieces with the separator put back between them are the text that they were cut from. -/
theorem intercalate_pieces (d : Char) (cs : List Char) : [d].intercalate (pieces (· = d) cs) = cs := by
  induction cs with
  | nil => rfl
  | cons c rest ih =>
    rw [pieces]
    obtain ⟨piece, others, hpieces⟩ := List.exists_cons_of_ne_nil (pieces_ne_nil (· = d) rest)
    rw [hpieces] at ih ⊢
    by_cases hc : c = d
    · subst hc
      rw [decide_eq_true rfl, if_pos rfl, List.intercalate_cons_cons, ih]
      rfl
    · rw [decide_eq_false hc, if_neg Bool.false_ne_true]
      cases others with
      | nil =>
        rw [List.intercalate_singleton] at ih ⊢
        rw [ih]
      | cons next others =>
        rw [List.intercalate_cons_cons] at ih ⊢
        rw [← ih]
        rfl

end Text

namespace TokenCipher

variable {c : TokenCipher} {token other password : String} {salt nonce ciphertext bs : Bytes} {e : LedgerError}

/-- A text has three segments that stand for a salt, a nonce and a ciphertext. -/
def Carries (token : String) (salt nonce ciphertext : Bytes) : Prop :=
  ∃ s n t, Text.pieces (· = delimiter) token.toList = [s, n, t] ∧
    readSegment s = .ok salt ∧ readSegment n = .ok nonce ∧ readSegment t = .ok ciphertext

/-- A token as sealing makes them, but for the size of its salt. -/
def IsCanonical (token : String) : Prop :=
  ∃ salt nonce ciphertext, salt ≠ [] ∧ nonce.length = 24 ∧ token = assemble salt nonce ciphertext

/-- A token like that with nothing for a salt. -/
def LacksSalt (token : String) : Prop := ∃ nonce ciphertext, Carries token [] nonce ciphertext ∧ nonce.length = 24

/-- What is handed to the cipher for a token: the key, the nonce and the ciphertext. -/
def unwrap (c : TokenCipher) (token password : String) : Except LedgerError (Bytes × Bytes × Bytes) := do
  let (salt, nonce, ciphertext) ← parse token
  let key ← c.key password salt
  return (key, nonce, ciphertext)

private theorem decrypt_eq_unwrap (c : TokenCipher) (token password : String) : c.decrypt token password =
    (c.unwrap token password).bind fun parts =>
      match Aead.decrypt? parts.1 parts.2.1 parts.2.2 with
      | some plaintext => .ok plaintext
      | none => .error .authentication := by
  rw [decrypt, unwrap]
  cases parse token with
  | error e => rfl
  | ok parts =>
    obtain ⟨salt, nonce, ciphertext⟩ := parts
    cases hkey : c.key password salt with
    | error e => simp only [bind, Except.bind, hkey]
    | ok key =>
      simp only [bind, Except.bind, hkey]
      rfl

private theorem eq_segment_of_readSegment {s : List Char} (h : readSegment s = .ok bs) :
    String.ofList s = segment bs := by
  rw [readSegment] at h
  split at h
  · next other hdecode =>
    obtain rfl := Except.ok.inj h
    apply Bytes.ofText_inj.1
    rw [ofText_segment]
    exact (Base64.encode_of_decode Base64.Alphabet.exact_urlSafe rfl hdecode).symm
  · cases h

/-- There is one text for a salt, a nonce and a ciphertext. -/
theorem carries_iff : Carries token salt nonce ciphertext ↔ token = assemble salt nonce ciphertext := by
  constructor
  · rintro ⟨s, n, t, hpieces, hs, hn, ht⟩
    have htoken := Text.intercalate_pieces delimiter token.toList
    rw [hpieces] at htoken
    rw [← String.toList_inj, ← htoken, assemble, ← eq_segment_of_readSegment hs, ← eq_segment_of_readSegment hn,
      ← eq_segment_of_readSegment ht]
    simp [delimiter]
  · rintro rfl
    exact ⟨_, _, _, pieces_assemble salt nonce ciphertext, readSegment_segment salt, readSegment_segment nonce,
      readSegment_segment ciphertext⟩

private theorem parse_eq_ok :
    parse token = .ok (salt, nonce, ciphertext) ↔ Carries token salt nonce ciphertext ∧ nonce.length = 24 := by
  constructor
  · intro h
    rw [parse] at h
    split at h
    · next s n t hpieces =>
      simp only [bind, Except.bind] at h
      split at h
      · cases h
      next salt' hs =>
      split at h
      · cases h
      next nonce' hn =>
      split at h
      · cases h
      next ciphertext' ht =>
      split at h
      · cases h
      next hsize =>
      cases h
      exact ⟨⟨s, n, t, hpieces, hs, hn, ht⟩, Decidable.of_not_not hsize⟩
    · cases h
  · rintro ⟨hcarries, hsize⟩
    rw [carries_iff.1 hcarries]
    exact parse_assemble salt ciphertext hsize

private theorem kind_of_parse (h : parse token = .error e) : e.kind = .decryption := by
  have hsegment : ∀ {s : List Char} {e : LedgerError}, readSegment s = .error e → e.kind = .decryption := by
    intro s e h
    rw [readSegment] at h
    split at h
    · cases h
    · cases h
      rfl
  rw [parse] at h
  split at h
  · simp only [bind, Except.bind] at h
    split at h
    · next fault hs =>
      cases h
      exact hsegment hs
    split at h
    · next fault hn =>
      cases h
      exact hsegment hn
    split at h
    · next fault ht =>
      cases h
      exact hsegment ht
    split at h
    · cases h
      rfl
    · cases h
  · cases h
    rfl

private theorem unwrap_eq_ok {key : Bytes} : c.unwrap token password = .ok (key, nonce, ciphertext) ↔
    ∃ salt, Carries token salt nonce ciphertext ∧ nonce.length = 24 ∧ c.key password salt = .ok key := by
  rw [unwrap]
  constructor
  · intro h
    simp only [bind, Except.bind] at h
    split at h
    · cases h
    next parts hparse =>
    obtain ⟨salt, nonce', ciphertext'⟩ := parts
    simp only at h
    split at h
    · cases h
    next key' hkey =>
    cases h
    obtain ⟨hcarries, hsize⟩ := parse_eq_ok.1 hparse
    exact ⟨salt, hcarries, hsize, hkey⟩
  · rintro ⟨salt, hcarries, hsize, hkey⟩
    rw [parse_eq_ok.2 ⟨hcarries, hsize⟩]
    simp only [bind, Except.bind, hkey]
    rfl

private theorem isCanonical_of_unwrap {key : Bytes} (h : c.unwrap token password = .ok (key, nonce, ciphertext)) :
    IsCanonical token := by
  obtain ⟨salt, hcarries, hsize, hkey⟩ := unwrap_eq_ok.1 h
  refine ⟨salt, nonce, ciphertext, ?_, hsize, carries_iff.1 hcarries⟩
  rintro rfl
  rw [key_without_salt] at hkey
  cases hkey

private theorem exists_unwrap (hc : KeyDerivation.minIterations ≤ c.iterations) (h : IsCanonical token)
    (password : String) :
    ∃ parts, c.unwrap token password = .ok parts := by
  obtain ⟨salt, nonce, ciphertext, hsalt, hsize, htoken⟩ := h
  obtain ⟨key, hkey⟩ := exists_key hc password hsalt
  exact ⟨(key, nonce, ciphertext), unwrap_eq_ok.2 ⟨salt, carries_iff.2 htoken, hsize, hkey⟩⟩

private theorem unwrap_refused (h : ¬ IsCanonical token) (c : TokenCipher) (password : String) :
    ∃ e, c.unwrap token password = .error e ∧ (e.kind = .keyDerivation ∧ LacksSalt token ∨
      e.kind = .decryption ∧ ¬ LacksSalt token) := by
  rw [unwrap]
  cases hparse : parse token with
  | error e =>
    refine ⟨e, rfl, Or.inr ⟨kind_of_parse hparse, ?_⟩⟩
    rintro ⟨nonce, ciphertext, hlacks⟩
    rw [parse_eq_ok.2 hlacks] at hparse
    cases hparse
  | ok parts =>
    obtain ⟨salt, nonce, ciphertext⟩ := parts
    obtain ⟨hcarries, hsize⟩ := parse_eq_ok.1 hparse
    obtain rfl : salt = [] := by
      apply Decidable.of_not_not
      intro hsalt
      exact h ⟨salt, nonce, ciphertext, hsalt, hsize, carries_iff.1 hcarries⟩
    exact ⟨.missingSalt, rfl, Or.inl ⟨rfl, nonce, ciphertext, hcarries, hsize⟩⟩

/-- Only texts as sealing writes them are opened. What they carry is written in no other way, all other texts are refused
before the cipher is asked, and the cipher gets a key and a nonce of its sizes. -/
theorem opens_canonical_tokens_only (c : TokenCipher) (token password : String) :
    (∀ plaintext, c.decrypt token password = .ok plaintext → IsCanonical token) ∧
      (∀ salt nonce ciphertext, Carries token salt nonce ciphertext → assemble salt nonce ciphertext = token ∧
        ∀ other, Carries other salt nonce ciphertext → other = token) ∧
      (¬ IsCanonical token → ∃ e, c.unwrap token password = .error e ∧ c.decrypt token password = .error e ∧
        (e.kind = .keyDerivation ↔ LacksSalt token) ∧ (e.kind = .decryption ↔ ¬ LacksSalt token)) ∧
      (KeyDerivation.minIterations ≤ c.iterations → IsCanonical token → ∃ parts, c.unwrap token password = .ok parts) ∧
      ∀ key nonce ciphertext, c.unwrap token password = .ok (key, nonce, ciphertext) →
        key.length = 32 ∧ nonce.length = 24 := by
  refine ⟨?_, ?_, ?_, fun hc h => exists_unwrap hc h password, ?_⟩
  · intro plaintext h
    rw [decrypt_eq_unwrap] at h
    cases hunwrap : c.unwrap token password with
    | error e =>
      rw [hunwrap] at h
      cases h
    | ok parts => exact isCanonical_of_unwrap hunwrap
  · intro salt nonce ciphertext h
    have htoken := carries_iff.1 h
    refine ⟨htoken.symm, fun other hother => ?_⟩
    rw [htoken, carries_iff.1 hother]
  · intro h
    obtain ⟨e, hunwrap, hkind⟩ := unwrap_refused h c password
    refine ⟨e, hunwrap, by rw [decrypt_eq_unwrap, hunwrap]; rfl, ?_⟩
    obtain ⟨hkind, hlacks⟩ | ⟨hkind, hlacks⟩ := hkind
    · simp [hkind, hlacks]
    · simp [hkind, hlacks]
  · intro key nonce ciphertext h
    obtain ⟨salt, -, hsize, hkey⟩ := unwrap_eq_ok.1 h
    exact ⟨length_of_key hkey, hsize⟩

end TokenCipher

end TieredLedger
