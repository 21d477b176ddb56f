import TieredLedger.Bytes.Base64
import TieredLedger.Bytes.Utf8

/-! The failures of the ledger and of its ciphers, by cause, with their texts. -/
namespace TieredLedger

inductive LedgerError.Kind
  | encryption
  | decryption
  | keyDerivation
  | validation
  | serialization
deriving DecidableEq, Repr

inductive LedgerError
  /-- A token is not made of three segments. -/
  | segmentCount
  /-- A segment of a token is not base64. -/
  | segment (fault : Base64.Fault)
  /-- The nonce of a token has the wrong size. -/
  | nonceSize (size : Nat)
  /-- A token was altered, or sealed under another key. -/
  | authentication
  /-- An opened payload is not text. -/
  | payloadText (fault : Utf8.Fault)
  /-- A key of no bytes was asked for. -/
  | emptyKey
  /-- More bytes were asked for than expansion can give. -/
  | keyTooLong
  /-- Expansion itself refused the length. -/
  | expansion
  /-- Stretching a password needs a salt. -/
  | missingSalt
  /-- Stretching a password needs more iterations than the parameters ask for. -/
  | fewIterations (minimum : Nat)
  /-- A cipher was configured with too few iterations. -/
  | iterationsBelow (count minimum : Nat)
  /-- An encrypted block needs a password. -/
  | emptyPassword
  /-- A search term, in its normal form, holds white space. -/
  | spacedTerm (term : String)
  /-- A block's stored hash is not the hash of its contents. -/
  | hashMismatch (number : UInt64)
  /-- A block does not carry the hash of the block before it. -/
  | brokenLink (number previous : UInt64)
  /-- A failure reported by a ledger or a codec from outside. -/
  | reported (kind : LedgerError.Kind) (text : String)
deriving DecidableEq, Repr

namespace LedgerError

def kind : LedgerError → Kind
  | segmentCount | segment _ | nonceSize _ | authentication | payloadText _ => .decryption
  | emptyKey | keyTooLong | expansion | missingSalt | fewIterations _ | iterationsBelow _ _ => .keyDerivation
  | emptyPassword | spacedTerm _ | hashMismatch _ | brokenLink _ _ => .validation
  | reported kind _ => kind

def Kind.heading : Kind → String
  | encryption => "Encryption error"
  | decryption => "Decryption error"
  | keyDerivation => "Key derivation error"
  | validation => "Validation error"
  | serialization => "Serialization error"

def text : LedgerError → String
  | segmentCount => "token must have exactly three segments"
  | segment fault => "invalid token segment: " ++ fault.message
  | nonceSize size => s!"nonce must be 24 bytes, got {size}"
  | authentication => "authentication failed"
  | payloadText fault => "payload is not UTF-8: " ++ fault.message
  | emptyKey => "Output length must be > 0"
  | keyTooLong => "Output too long for HKDF"
  | expansion => "HKDF expand failed: invalid number of blocks, too large output"
  | missingSalt => "PBKDF2 requires salt"
  | fewIterations minimum => s!"PBKDF2 requires at least {minimum} iterations"
  | iterationsBelow count minimum => s!"iteration count {count} below minimum {minimum}"
  | emptyPassword => "encrypted blocks require a non-empty password"
  | spacedTerm term => s!"search term '{term}' contains whitespace; index its words separately"
  | hashMismatch number => s!"block #{number} hash mismatch"
  | brokenLink number previous => s!"block #{number} does not link to block #{previous}"
  | reported _ text => text

def message (e : LedgerError) : String := e.kind.heading ++ ": " ++ e.text

end LedgerError

end TieredLedger
