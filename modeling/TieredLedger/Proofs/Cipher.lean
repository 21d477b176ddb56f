import TieredLedger.Cipher

/-! Opening undoes sealing: the keystream covers every text, so that combining with it twice gives the text back, and
the tag that is checked is the one that was made. -/
namespace TieredLedger

namespace Bytes

/-- Combining with the same bytes twice changes nothing that they cover. -/
theorem xor_xor {as bs : Bytes} (h : as.length ≤ bs.length) : (as.xor bs).xor bs = as := by
  induction as generalizing bs with
  | nil => rfl
  | cons a as ih =>
    cases bs with
    | nil => cases h
    | cons b bs =>
      have hrest := ih (Nat.le_of_succ_le_succ h)
      rw [xor] at hrest
      rw [xor, xor, List.zipWith_cons_cons, List.zipWith_cons_cons, UInt8.xor_assoc, UInt8.xor_self, UInt8.xor_zero]
      exact congrArg (a :: ·) hrest

private theorem length_xor {as bs : Bytes} (h : as.length ≤ bs.length) : (as.xor bs).length = as.length := by
  rw [xor, List.length_zipWith, Nat.min_eq_left h]

end Bytes

namespace ChaCha20

variable (key nonce : Bytes)

@[simp] theorem length_block (counter : Nat) : (block key nonce counter).length = 64 := rfl

private theorem length_keystream (count counter : Nat) : (keystream key nonce count counter).length = 64 * count := by
  induction count generalizing counter with
  | zero => rfl
  | succ count ih => rw [keystream, List.length_append, length_block, ih, Nat.mul_succ, Nat.add_comm]

private theorem le_length_keystream (counter : Nat) (text : Bytes) :
    text.length ≤ (keystream key nonce ((text.length + 63) / 64) counter).length := by
  rw [length_keystream]
  omega

private theorem length_combine (counter : Nat) (text : Bytes) : (combine key nonce counter text).length = text.length :=
  Bytes.length_xor (le_length_keystream key nonce counter text)

/-- Combining a text with the keystream twice gives the text back. -/
theorem combine_combine (counter : Nat) (text : Bytes) :
    combine key nonce counter (combine key nonce counter text) = text := by
  rw [combine, length_combine]
  exact Bytes.xor_xor (le_length_keystream key nonce counter text)

end ChaCha20

namespace Aead

private theorem length_tag (key nonce ciphertext : Bytes) : (tag key nonce ciphertext).length = tagSize :=
  Poly1305.length_tag _ _

/-- A ciphertext is longer than its plaintext by the tag. -/
theorem length_encrypt (key nonce plaintext : Bytes) :
    (encrypt key nonce plaintext).length = plaintext.length + tagSize := by
  rw [encrypt]
  simp only [List.length_append, length_tag, ChaCha20.length_combine]

/-- What was sealed is opened with the same key and nonce. -/
theorem decrypt?_encrypt (key nonce plaintext : Bytes) : decrypt? key nonce (encrypt key nonce plaintext) =
    some plaintext := by
  generalize hkeys : schedule key nonce = keys
  obtain ⟨subkey, subnonce⟩ := keys
  generalize hcipher : ChaCha20.combine subkey subnonce 1 plaintext = ciphertext
  have hsealed : encrypt key nonce plaintext = ciphertext ++ tag subkey subnonce ciphertext := by
    rw [encrypt, hkeys, ← hcipher]
  have hlength : (ciphertext ++ tag subkey subnonce ciphertext).length - tagSize = ciphertext.length := by
    rw [List.length_append, length_tag, Nat.add_sub_cancel]
  have hlong : ¬ (ciphertext ++ tag subkey subnonce ciphertext).length < tagSize := by
    rw [List.length_append, length_tag]
    omega
  rw [hsealed, decrypt?, if_neg hlong, hkeys, hlength]
  simp only [List.take_left, List.drop_left, if_true]
  rw [← hcipher, ChaCha20.combine_combine]

end Aead

end TieredLedger
