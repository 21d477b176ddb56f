import TieredLedger.Token
import TieredLedger.Proofs.Keyword
import TieredLedger.Proofs.Token

/-! Tokens as sealing makes them: what they are opened to, their segments, and how searches and keyword fields see them. -/
namespace TieredLedger

open TokenCipher (delimiter isUrlSafe segment assemble segment_facts)

variable {c : TokenCipher} {draw : Draw} {plaintext salt nonce ciphertext bs : Bytes} {password token : String}

/-- How a token for so many bytes looks. -/
structure TokenCipher.Shaped (token : String) (size : Nat) : Prop where
  segments : ∃ s n t : List Char, Text.pieces (· = delimiter) token.toList = [s, n, t] ∧ s.length = 22 ∧ n.length = 32 ∧
    t.length = (4 * (size + 16) + 2) / 3 ∧ ∀ c ∈ s ++ n ++ t, isUrlSafe c = true
  spaceless : Text.hasBlank token = false
  looksEncrypted : Codec.hasTokenShape token = true
  hidden : Keyword.parseField token = [.token token]

namespace TokenCipher

private theorem assemble_of_encrypt (h : c.encrypt draw plaintext password = .ok token) :
    ∃ ciphertext, token = assemble draw.salt draw.nonce ciphertext ∧
      ciphertext.length = plaintext.length + Aead.tagSize := by
  rw [encrypt] at h
  cases hkey : c.key password draw.salt with
  | error e =>
    rw [hkey] at h
    cases h
  | ok key =>
    rw [hkey] at h
    obtain rfl := Except.ok.inj h
    exact ⟨_, rfl, Aead.length_encrypt key draw.nonce plaintext⟩

private theorem length_segment (bs : Bytes) : (segment bs).toList.length = (4 * bs.length + 2) / 3 := by
  rw [segment, Base64.asText, String.toList_ofList, List.length_map]
  exact Base64.length_encode rfl bs

private theorem textSize_segment (bs : Bytes) : Bytes.textSize (segment bs) = (4 * bs.length + 2) / 3 := by
  rw [← Bytes.length_ofText, ofText_segment]
  exact Base64.length_encode rfl bs

private theorem assemble_facts {c : Char} (h : c ∈ (assemble salt nonce ciphertext).toList) :
    Text.isBlank c = false ∧ c.toLower ≠ ':' := by
  have hdelimiter : Text.isBlank '.' = false ∧ '.'.toLower ≠ ':' := by decide
  simp only [assemble, String.toList_append, List.mem_append] at h
  rcases h with (((h | h) | h) | h) | h
  · exact (segment_facts h).2.2
  · obtain rfl := List.mem_singleton.1 h
    exact hdelimiter
  · exact (segment_facts h).2.2
  · obtain rfl := List.mem_singleton.1 h
    exact hdelimiter
  · exact (segment_facts h).2.2

private theorem hasBlank_assemble (salt nonce ciphertext : Bytes) :
    Text.hasBlank (assemble salt nonce ciphertext) = false := by
  rw [Text.hasBlank, List.any_eq_false]
  intro c hc
  rw [(assemble_facts hc).1]
  exact Bool.false_ne_true

private theorem textSize_assemble (salt nonce ciphertext : Bytes) : Bytes.textSize (assemble salt nonce ciphertext) =
    (4 * salt.length + 2) / 3 + 1 + (4 * nonce.length + 2) / 3 + 1 + (4 * ciphertext.length + 2) / 3 := by
  have hdelimiter : String.utf8ByteSize "." = 1 := rfl
  have hsegment := textSize_segment
  unfold Bytes.textSize at hsegment ⊢
  simp only [assemble, String.utf8ByteSize_append, hsegment, hdelimiter]

private theorem hasTokenShape_assemble (draw : Draw) (ciphertext : Bytes) :
    Codec.hasTokenShape (assemble draw.salt draw.nonce ciphertext) = true := by
  rw [Codec.hasTokenShape, Bool.and_eq_true, decide_eq_true_eq, textSize_assemble, draw.salt_length, draw.nonce_length]
  refine ⟨by rw [Codec.minTokenSize]; omega, ?_⟩
  simp [assemble, delimiter]

private theorem isMarked_assemble (salt nonce ciphertext : Bytes) :
    Keyword.isMarked (assemble salt nonce ciphertext).toList = false := by
  rw [Keyword.isMarked, Bool.and_eq_false_iff]
  right
  rw [beq_eq_false_iff_ne]
  intro hmark
  have hcolon : ':' ∈ Keyword.termMark.toList := by decide
  rw [← hmark, List.mem_map] at hcolon
  obtain ⟨c, hc, hlower⟩ := hcolon
  exact (assemble_facts (List.mem_of_mem_take hc)).2 hlower

private theorem parseField_assemble (salt nonce ciphertext : Bytes) :
    Keyword.parseField (assemble salt nonce ciphertext) = [.token (assemble salt nonce ciphertext)] := by
  have hword : Text.IsWord (assemble salt nonce ciphertext) := by
    rw [Text.isWord_iff]
    exact ⟨by simp [assemble], fun c hc => (assemble_facts hc).1⟩
  rw [Keyword.parseField_of_isWord hword, Keyword.ofWord, isMarked_assemble, if_neg Bool.false_ne_true,
    String.ofList_toList]

private theorem shaped_of_encrypt (h : c.encrypt draw plaintext password = .ok token) :
    Shaped token plaintext.length := by
  obtain ⟨ciphertext, rfl, hlength⟩ := assemble_of_encrypt h
  refine ⟨⟨_, _, _, pieces_assemble draw.salt draw.nonce ciphertext, ?_, ?_, ?_, ?_⟩, hasBlank_assemble _ _ _,
    hasTokenShape_assemble draw ciphertext, parseField_assemble _ _ _⟩
  · rw [length_segment, draw.salt_length]
  · rw [length_segment, draw.nonce_length]
  · rw [length_segment, hlength, Aead.tagSize]
  · intro c hc
    rw [List.mem_append, List.mem_append] at hc
    rcases hc with (hc | hc) | hc
    · exact (segment_facts hc).1
    · exact (segment_facts hc).1
    · exact (segment_facts hc).1

/-- Whatever is sealed under a password is opened with it by every cipher of the same purpose and count, and the token has
the shape that searches and keyword fields rely on. -/
theorem seals_and_opens (hc : KeyDerivation.minIterations ≤ c.iterations) (draw : Draw) (plaintext : Bytes)
    (password : String) : ∃ token, c.encrypt draw plaintext password = .ok token ∧
      (∀ d : TokenCipher, d.purpose = c.purpose → d.iterations = c.iterations →
        d.decrypt token password = .ok plaintext) ∧ Shaped token plaintext.length := by
  obtain ⟨token, htoken⟩ := exists_encrypt hc draw plaintext password
  refine ⟨token, htoken, ?_, shaped_of_encrypt htoken⟩
  intro d hpurpose hiterations
  have hsame : d = c := by
    cases d
    cases c
    cases hpurpose
    cases hiterations
    rfl
  rw [hsame]
  exact decrypt_of_encrypt htoken

/-- A hundred bytes, more than a block of the cipher has, sealed with the fewest iterations that there may be. -/
theorem seals_and_opens_blocks : KeyDerivation.minIterations ≤ forKeywords.iterations ∧
    64 < (List.replicate 100 (7 : UInt8)).length ∧
    ∃ token, forKeywords.encrypt default (List.replicate 100 7) "secret" = .ok token ∧
      forKeywords.decrypt token "secret" = .ok (List.replicate 100 7) ∧ Shaped token 100 := by
  have hiterations : KeyDerivation.minIterations ≤ forKeywords.iterations := UInt32.le_refl _
  obtain ⟨token, hseal, hopen, hshape⟩ := seals_and_opens hiterations default (List.replicate 100 7) "secret"
  exact ⟨hiterations, by decide, token, hseal, hopen forKeywords rfl rfl, hshape⟩

end TokenCipher

end TieredLedger
