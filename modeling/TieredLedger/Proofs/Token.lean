import TieredLedger.Proofs.Bytes
import TieredLedger.Proofs.Bytes.Base64
import TieredLedger.Proofs.Cipher
import TieredLedger.Proofs.KeyDerivation
import TieredLedger.Proofs.Text.Words
import TieredLedger.Token

/-! Sealing does not fail: parameters that pass their check give a key, and a cipher asks for nothing else. A token is
opened with the password that it was sealed under. -/
namespace TieredLedger

namespace TokenCipher

/-- A cipher with enough iterations has a key for every password and salt. -/
theorem exists_key {c : TokenCipher} (hc : KeyDerivation.minIterations ≤ c.iterations) (password : String)
    {salt : Bytes} (hsalt : salt ≠ []) : ∃ key, c.key password salt = .ok key := by
  have hsize : 0 < UInt64.ofNat Aead.keySize := by decide
  have hstretch : (c.stretching salt).validate .pbkdf2 = .ok () :=
    KeyDerivation.validate_eq_ok_iff.2 (.pbkdf2 hsize rfl hsalt rfl hc)
  obtain ⟨master, hmaster⟩ := (KeyDerivation.exists_deriveInto_iff (c.fits_stretching salt)).2 hstretch
  have hexpand : c.binding.validate .hkdf = .ok () := rfl
  rw [key, hmaster]
  exact (KeyDerivation.exists_deriveInto_iff c.fits_binding).2 hexpand

/-- A key has the size that the cipher takes. -/
theorem length_of_key {c : TokenCipher} {password : String} {salt key : Bytes} (h : c.key password salt = .ok key) :
    key.length = Aead.keySize := by
  rw [TokenCipher.key] at h
  simp only [bind, Except.bind] at h
  split at h
  · cases h
  · exact KeyDerivation.length_of_deriveInto h

/-- Without a salt there is no key. -/
theorem key_without_salt (c : TokenCipher) (password : String) : c.key password [] = .error .missingSalt := rfl

/-- Such a cipher seals every text. -/
theorem exists_encrypt {c : TokenCipher} (hc : KeyDerivation.minIterations ≤ c.iterations) (draw : Draw)
    (plaintext : Bytes) (password : String) : ∃ token, c.encrypt draw plaintext password = .ok token := by
  have hsalt : draw.salt ≠ [] := by
    intro hnil
    have hlength := draw.salt_length
    rw [hnil] at hlength
    cases hlength
  obtain ⟨key, hkey⟩ := exists_key hc password hsalt
  rw [encrypt, hkey]
  exact ⟨_, rfl⟩

def isUrlSafe (c : Char) : Bool := c.isAlphanum || c = '-' || c = '_'

private theorem symbol_facts : ∀ n < 64, (Base64.Alphabet.urlSafe.symbol n).toNat < 128 ∧
    (let c := Char.ofNat (Base64.Alphabet.urlSafe.symbol n).toNat
     isUrlSafe c = true ∧ c ≠ delimiter ∧ Text.isBlank c = false ∧ c.toLower ≠ ':') := by
  decide

/-- What the characters of a segment are and are not. -/
theorem segment_facts {bs : Bytes} {c : Char} (h : c ∈ (segment bs).toList) :
    isUrlSafe c = true ∧ c ≠ delimiter ∧ Text.isBlank c = false ∧ c.toLower ≠ ':' := by
  rw [segment, Base64.asText, String.toList_ofList, List.mem_map] at h
  obtain ⟨b, hb, rfl⟩ := h
  obtain ⟨n, hn, rfl⟩ := Base64.exists_symbol_of_mem_encode rfl hb
  exact (symbol_facts n hn).2

/-- The bytes of a segment are the symbols that it is made of. -/
theorem ofText_segment (bs : Bytes) : Bytes.ofText (segment bs) = Base64.encode .urlSafe bs := by
  refine Base64.ofText_asText fun b hb => ?_
  obtain ⟨n, hn, rfl⟩ := Base64.exists_symbol_of_mem_encode rfl hb
  exact (symbol_facts n hn).1

/-- Bytes come back from their segment. -/
theorem readSegment_segment (bs : Bytes) : readSegment (segment bs).toList = .ok bs := by
  rw [readSegment, String.ofList_toList, ofText_segment, Base64.decode_encode Base64.Alphabet.proper_urlSafe]

/-- A token falls into its three segments. -/
theorem pieces_assemble (salt nonce ciphertext : Bytes) :
    Text.pieces (· = delimiter) (assemble salt nonce ciphertext).toList =
      [(segment salt).toList, (segment nonce).toList, (segment ciphertext).toList] := by
  have hlist : (assemble salt nonce ciphertext).toList =
      (segment salt).toList ++ delimiter :: ((segment nonce).toList ++ delimiter :: (segment ciphertext).toList) := by
    simp [assemble, delimiter]
  have hclear : ∀ bs, ∀ c ∈ (segment bs).toList, decide (c = delimiter) = false :=
    fun bs c hc => decide_eq_false (segment_facts hc).2.1
  rw [hlist, Text.pieces_append_separator _ (hclear salt) (by decide),
    Text.pieces_append_separator _ (hclear nonce) (by decide), Text.pieces_of_clear (hclear ciphertext)]

/-- The segments of a token are read back. -/
theorem parse_assemble (salt ciphertext : Bytes) {nonce : Bytes} (h : nonce.length = Aead.nonceSize) :
    parse (assemble salt nonce ciphertext) = .ok (salt, nonce, ciphertext) := by
  rw [parse, pieces_assemble]
  simp only [readSegment_segment, bind, Except.bind, h, ne_eq, not_true_eq_false, if_false]
  rfl

/-- What a cipher sealed it opens with the same password. -/
theorem decrypt_of_encrypt {c : TokenCipher} {draw : Draw} {plaintext : Bytes} {password token : String}
    (h : c.encrypt draw plaintext password = .ok token) : c.decrypt token password = .ok plaintext := by
  unfold encrypt at h
  cases hkey : c.key password draw.salt with
  | error e =>
    rw [hkey] at h
    cases h
  | ok key =>
    rw [hkey] at h
    obtain rfl := Except.ok.inj h
    rw [decrypt, parse_assemble _ _ draw.nonce_length]
    simp only [bind, Except.bind, hkey, Aead.decrypt?_encrypt]
    rfl

end TokenCipher

end TieredLedger
