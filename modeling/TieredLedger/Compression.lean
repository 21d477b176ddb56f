import TieredLedger.Bytes.Base64
import TieredLedger.Deflate.Stream
import TieredLedger.StoreError

/-! Compressed payloads: a compressed stream as base64 text, so that what is stored stays plain text. -/
namespace TieredLedger.Compression

def compressedType : String := "application/x-strata-deflate+base64"

def rawType : String := "application/octet-stream"

structure Packed where
  bytes : Bytes
  compressed : Bool
deriving DecidableEq, Repr

def Packed.contentType (p : Packed) : String := if p.compressed then compressedType else rawType

def raw (bs : Bytes) : Packed := ⟨bs, false⟩

def compress (deflate : Bytes → Bytes) (bs : Bytes) : Packed := ⟨Base64.encode .standard (deflate bs), true⟩

def decompress (bs : Bytes) : Except StoreError Bytes :=
  match Base64.decode .standard bs with
  | .error fault => .error (.encoding fault)
  | .ok deflated =>
    match Deflate.decompress deflated with
    | .error fault => .error (.stream fault)
    | .ok payload => .ok payload

end TieredLedger.Compression
