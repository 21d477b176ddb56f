import TieredLedger.Digest
import TieredLedger.Keyword
import TieredLedger.Time.Timestamp

/-! Blocks: a payload with a header, keywords and a hash, and references to payloads kept off the chain. -/
namespace TieredLedger

/-- Where bytes are kept in an off-chain store, and what they are. -/
structure BlobRef where
  handle : String
  checksum : String
  size : UInt64
  contentType : String
  compressed : Bool
  createdAt : Instant
deriving DecidableEq, Repr, Inhabited

def Instant.toJson (t : Instant) : Json := .text (Timestamp.text t)

def Instant.ofJson? (j : Json) : Option Instant := j.text?.bind Timestamp.read?

namespace BlobRef

def toJson (r : BlobRef) : Json :=
  .record [("handle", .text r.handle), ("checksum", .text r.checksum), ("size_bytes", .word r.size),
    ("content_type", .text r.contentType), ("compressed", .bool r.compressed), ("created_at", r.createdAt.toJson)]

def ofJson? (j : Json) : Option BlobRef := do
  match ← j.record? ["handle", "checksum", "size_bytes", "content_type", "compressed", "created_at"] with
  | [handle, checksum, size, contentType, compressed, createdAt] =>
    return {
      handle := ← Json.required Json.text? handle
      checksum := ← Json.required Json.text? checksum
      size := ← Json.required Json.word? size
      contentType := ← Json.required Json.text? contentType
      compressed := ← Json.required Json.bool? compressed
      createdAt := ← Json.required Instant.ofJson? createdAt }
  | _ => none

end BlobRef

structure Block where
  number : UInt64
  createdAt : Instant
  previousHash : String
  hash : String
  data : String
  encrypted : Bool
  manualKeywords : List Keyword
  autoKeywords : List Keyword
  blob : Option BlobRef
deriving DecidableEq, Repr, Inhabited

namespace Block

/-- The word that stands for an instant in a hash: nanoseconds, or seconds where those do not fit. -/
def timeWord (t : Instant) : UInt64 := UInt64.ofInt (t.nanos?.getD t.seconds)

def preimage (b : Block) : Bytes :=
  Bytes.be64 b.number ++ Bytes.be64 (timeWord b.createdAt) ++ Bytes.ofText b.previousHash
    ++ [if b.encrypted then 1 else 0] ++ Bytes.ofText b.data

def computeHash (b : Block) : String := Sha256.hexDigest b.preimage

def rehashed (b : Block) : Block := { b with hash := b.computeHash }

def create (number : UInt64) (previousHash data : String) (now : Instant) : Block :=
  rehashed {
    number, previousHash, data
    createdAt := now
    hash := ""
    encrypted := false
    manualKeywords := []
    autoKeywords := []
    blob := none }

def withTimestamp (b : Block) (t : Instant) : Block := rehashed { b with createdAt := t }

def markEncrypted (b : Block) : Block := rehashed { b with encrypted := true }

def verifyHash (b : Block) : Bool := b.hash == b.computeHash

def payload (b : Block) : Bytes := Bytes.ofText b.data

def payloadSize (b : Block) : UInt64 := UInt64.ofNat (Bytes.textSize b.data)

def keywords (b : Block) : List Keyword := b.manualKeywords ++ b.autoKeywords

def toJson (b : Block) : Json :=
  .record [("number", .word b.number), ("creation_timestamp", b.createdAt.toJson),
    ("previous_hash", .text b.previousHash), ("hash", .text b.hash), ("data", .text b.data),
    ("encrypted", .bool b.encrypted), ("manual_keywords", .array (b.manualKeywords.map Keyword.toJson)),
    ("auto_keywords", .array (b.autoKeywords.map Keyword.toJson)),
    ("off_chain_data", .option BlobRef.toJson b.blob)]

def ofJson? (j : Json) : Option Block := do
  match ← j.record? ["number", "creation_timestamp", "previous_hash", "hash", "data", "encrypted",
      "manual_keywords", "auto_keywords", "off_chain_data"] with
  | [number, createdAt, previousHash, hash, data, encrypted, manualKeywords, autoKeywords, blob] =>
    return {
      number := ← Json.required Json.word? number
      createdAt := ← Json.required Instant.ofJson? createdAt
      previousHash := ← Json.required Json.text? previousHash
      hash := ← Json.required Json.text? hash
      data := ← Json.required Json.text? data
      encrypted := ← Json.required Json.bool? encrypted
      manualKeywords := ← Json.required (Json.array? Keyword.ofJson?) manualKeywords
      autoKeywords := ← Json.required (Json.array? Keyword.ofJson?) autoKeywords
      blob := ← Json.optional BlobRef.ofJson? blob }
  | _ => none

end Block

end TieredLedger
