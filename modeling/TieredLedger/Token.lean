import TieredLedger.Cipher
import TieredLedger.KeyDerivation
import TieredLedger.Text.Blank

/-! Tokens: bytes sealed under a password, as text. A token is three segments, the salt, the nonce and the ciphertext,
each in the address-safe base64 alphabet, so that it holds no white space. -/
namespace TieredLedger

structure Draw where
  salt : Bytes
  nonce : Bytes
  salt_length : salt.length = 16
  nonce_length : nonce.length = 24

instance : Inhabited Draw := ⟨⟨List.replicate 16 0, List.replicate 24 0, rfl, rfl⟩⟩

/-- A cipher for tokens: a purpose, so that tokens for different uses never share a key, and an iteration count. -/
structure TokenCipher where
  purpose : String
  iterations : UInt32
deriving DecidableEq, Repr

namespace TokenCipher

def delimiter : Char := '.'

def purposeSalt : Bytes := Bytes.ofText "strata-password-cipher-v1"

def ofPurpose (purpose : String) : TokenCipher := ⟨purpose, KeyDerivation.minIterations⟩

def forKeywords : TokenCipher := ofPurpose "strata-keyword"

def forPayloads : TokenCipher := ofPurpose "strata-payload"

def forBlobs : TokenCipher := ofPurpose "strata-off-chain"

instance : Inhabited TokenCipher := ⟨forKeywords⟩

def withIterations (c : TokenCipher) (count : UInt32) : Except LedgerError TokenCipher :=
  if count < KeyDerivation.minIterations then
    .error (.iterationsBelow count.toNat KeyDerivation.minIterations.toNat)
  else .ok { c with iterations := count }

def stretching (c : TokenCipher) (salt : Bytes) : KeyDerivation.Params := .pbkdf2 salt c.iterations (.ofNat Aead.keySize)

def binding (c : TokenCipher) : KeyDerivation.Params :=
  .hkdf purposeSalt (Bytes.ofText c.purpose) (.ofNat Aead.keySize)

/-- A key for a password is short enough for a buffer. -/
theorem fits_stretching (c : TokenCipher) (salt : Bytes) : (c.stretching salt).Fits := by
  change Aead.keySize ≤ KeyDerivation.maxBuffer
  decide

/-- A key for a purpose is short enough for a buffer. -/
theorem fits_binding (c : TokenCipher) : c.binding.Fits := by
  change Aead.keySize ≤ KeyDerivation.maxBuffer
  decide

def key (c : TokenCipher) (password : String) (salt : Bytes) : Except LedgerError Bytes := do
  let master ← KeyDerivation.deriveInto .pbkdf2 (Bytes.ofText password) (c.stretching salt) (c.fits_stretching salt)
  KeyDerivation.deriveInto .hkdf master c.binding c.fits_binding

def segment (bs : Bytes) : String := Base64.asText (Base64.encode .urlSafe bs)

def assemble (salt nonce ciphertext : Bytes) : String :=
  segment salt ++ "." ++ segment nonce ++ "." ++ segment ciphertext

def encrypt (c : TokenCipher) (draw : Draw) (plaintext : Bytes) (password : String) : Except LedgerError String := do
  let key ← c.key password draw.salt
  return assemble draw.salt draw.nonce (Aead.encrypt key draw.nonce plaintext)

def readSegment (s : List Char) : Except LedgerError Bytes :=
  match Base64.decode .urlSafe (Bytes.ofText (String.ofList s)) with
  | .ok bs => .ok bs
  | .error fault => .error (.segment fault)

def parse (token : String) : Except LedgerError (Bytes × Bytes × Bytes) :=
  match Text.pieces (· = delimiter) token.toList with
  | [s, n, t] => do
    let salt ← readSegment s
    let nonce ← readSegment n
    let ciphertext ← readSegment t
    if nonce.length ≠ Aead.nonceSize then throw (.nonceSize nonce.length)
    return (salt, nonce, ciphertext)
  | _ => .error .segmentCount

def decrypt (c : TokenCipher) (token : String) (password : String) : Except LedgerError Bytes := do
  let (salt, nonce, ciphertext) ← parse token
  let key ← c.key password salt
  match Aead.decrypt? key nonce ciphertext with
  | some plaintext => return plaintext
  | none => throw .authentication

end TokenCipher

end TieredLedger

/-! Codecs for hidden terms: they turn a text and a password into an opaque token and back. -/
namespace TieredLedger

/-- A codec. Reading a token may fail as a matter of course, because a block may carry tokens under several
passwords. -/
structure Codec where
  /-- The token of a text under a password; random bytes are there to be used. -/
  encrypt : Draw → (text password : String) → Except LedgerError String
  /-- The text of a token, if the password fits. -/
  decrypt : (token password : String) → Option String
  /-- Whether a word can be a token at all. -/
  looksEncrypted : String → Bool

namespace Codec

def minTokenSize : Nat := 48

def hasTokenShape (word : String) : Bool :=
  Bytes.textSize word > minTokenSize && word.toList.contains TokenCipher.delimiter

def ofCipher (c : TokenCipher) : Codec where
  encrypt draw text password := c.encrypt draw (Bytes.ofText text) password
  decrypt token password :=
    match c.decrypt token password with
    | .ok bytes => Utf8.text? bytes
    | .error _ => none
  looksEncrypted := hasTokenShape

end Codec

end TieredLedger
