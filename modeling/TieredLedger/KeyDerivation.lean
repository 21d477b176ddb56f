import TieredLedger.Digest
import TieredLedger.Json.Value
import TieredLedger.LedgerError

/-! Key derivation: stretching a password (PBKDF2) and separating keys by purpose (HKDF), both over HMAC-SHA-256.
Parameters are checked first, so that a key always has the length asked for. The check sets stretching no upper limit,
though; a length that no buffer can have stops the program. -/
namespace TieredLedger.KeyDerivation

inductive Algorithm
  | hkdf
  | pbkdf2
deriving DecidableEq, Repr, Inhabited

/-- What a derivation is asked for. A missing field counts as empty where it may be missing at all. -/
structure Params where
  salt : Option Bytes
  info : Option Bytes
  outputLength : UInt64
  iterations : Option UInt32
deriving DecidableEq, Repr

def minIterations : UInt32 := 10000

def maxExpansion : Nat := 255 * Sha256.digestSize

def Params.hkdf (salt info : Bytes) (outputLength : UInt64) : Params := ⟨some salt, some info, outputLength, none⟩

def Params.pbkdf2 (salt : Bytes) (iterations : UInt32) (outputLength : UInt64) : Params :=
  ⟨some salt, none, outputLength, some iterations⟩

def Params.validate (p : Params) (algorithm : Algorithm) : Except LedgerError Unit :=
  if p.outputLength = 0 then .error .emptyKey
  else
    match algorithm with
    | .hkdf => if p.outputLength.toNat > maxExpansion then .error .keyTooLong else .ok ()
    | .pbkdf2 =>
      if (p.salt.getD []).isEmpty then .error .missingSalt
      else if p.iterations.getD 0 < minIterations then .error (.fewIterations minIterations.toNat)
      else .ok ()

def maxBuffer : Nat := 9223372036854775807

def Params.Fits (p : Params) : Prop := p.outputLength.toNat ≤ maxBuffer

instance (p : Params) : Decidable p.Fits := inferInstanceAs (Decidable (_ ≤ _))

def extract (salt ikm : Bytes) : Hmac.Key := Hmac.Key.ofBytes (Hmac.code salt ikm)

def expandFrom (key : Hmac.Key) (info : Bytes) : (count index : Nat) → (previous : Bytes) → Bytes
  | 0, _, _ => []
  | count + 1, index, previous =>
    let block := (key.mac (previous ++ info ++ [UInt8.ofNat index])).toBytes
    block ++ expandFrom key info count (index + 1) block

def blocksFor (length : Nat) : Nat := (length + (Sha256.digestSize - 1)) / Sha256.digestSize

/-- Key expansion (RFC 5869). The digests are numbered in one byte, so that there are at most 255 of them. -/
def expand? (key : Hmac.Key) (info : Bytes) (length : Nat) : Option Bytes :=
  if length > maxExpansion then none else some ((expandFrom key info (blocksFor length) 1 []).take length)

def iterate (key : Hmac.Key) : (count : Nat) → (sum last : Sha256.State) → Sha256.State
  | 0, sum, _ => sum
  | count + 1, sum, last =>
    let next := key.macDigest last
    iterate key count (sum.xor next) next

def stretchBlock (key : Hmac.Key) (salt : Bytes) (iterations index : Nat) : Bytes :=
  let first := key.mac (salt ++ Bytes.be32 (UInt32.ofNat index))
  (iterate key (iterations - 1) first first).toBytes

def stretchFrom (key : Hmac.Key) (salt : Bytes) (iterations : Nat) : (count index : Nat) → Bytes
  | 0, _ => []
  | count + 1, index =>
    stretchBlock key salt iterations index ++ stretchFrom key salt iterations count (index + 1)

def stretch (password salt : Bytes) (iterations length : Nat) : Bytes :=
  (stretchFrom (Hmac.Key.ofBytes password) salt iterations (blocksFor length) 1).take length

/-- The key that an algorithm derives into a buffer of the length asked for, once the parameters have passed their
check. -/
def deriveInto (algorithm : Algorithm) (ikm : Bytes) (p : Params) (_ : p.Fits) : Except LedgerError Bytes := do
  p.validate algorithm
  match algorithm with
  | .hkdf =>
    match expand? (extract (p.salt.getD []) ikm) (p.info.getD []) p.outputLength.toNat with
    | some key => return key
    | none => throw .expansion
  | .pbkdf2 =>
    return stretch ikm (p.salt.getD []) (p.iterations.getD minIterations).toNat p.outputLength.toNat

/-- What a derivation comes to: a key or an error, or nothing, where the check lets a length pass that no buffer can
have and the program stops. -/
def derive (algorithm : Algorithm) (ikm : Bytes) (p : Params) : Option (Except LedgerError Bytes) :=
  if h : p.Fits then some (deriveInto algorithm ikm p h)
  else
    match p.validate algorithm with
    | .error e => some (.error e)
    | .ok () => none

private theorem length_expandFrom (key : Hmac.Key) (info : Bytes) (count index : Nat) (previous : Bytes) :
    (expandFrom key info count index previous).length = count * Sha256.digestSize := by
  induction count generalizing index previous with
  | zero => simp [expandFrom]
  | succ count ih => simp [expandFrom, ih, Nat.succ_mul, Nat.add_comm]

private theorem length_stretchFrom (key : Hmac.Key) (salt : Bytes) (iterations count index : Nat) :
    (stretchFrom key salt iterations count index).length = count * Sha256.digestSize := by
  induction count generalizing index with
  | zero => simp [stretchFrom]
  | succ count ih => simp [stretchFrom, stretchBlock, ih, Nat.succ_mul, Nat.add_comm]

private theorem le_blocksFor_mul (length : Nat) : length ≤ blocksFor length * Sha256.digestSize := by
  simp only [blocksFor, Sha256.digestSize]; omega

/-- Expansion gives as many bytes as it is asked for. -/
theorem length_of_expand? {key : Hmac.Key} {info okm : Bytes} {length : Nat}
    (h : expand? key info length = some okm) : okm.length = length := by
  unfold expand? at h
  split at h
  · cases h
  · cases h
    rw [List.length_take, length_expandFrom]
    exact Nat.min_eq_left (le_blocksFor_mul length)

@[simp] theorem length_stretch (password salt : Bytes) (iterations length : Nat) :
    (stretch password salt iterations length).length = length := by
  rw [stretch, List.length_take, length_stretchFrom]
  exact Nat.min_eq_left (le_blocksFor_mul length)

end TieredLedger.KeyDerivation

/-! The JSON forms of the algorithms and of the parameters of key derivation. -/
namespace TieredLedger.KeyDerivation

def Algorithm.name : Algorithm → String
  | hkdf => "hkdf_sha256"
  | pbkdf2 => "pbkdf2_sha256"

def Algorithm.ofName? : String → Option Algorithm
  | "hkdf_sha256" => some hkdf
  | "pbkdf2_sha256" => some pbkdf2
  | _ => none

def Algorithm.toJson (a : Algorithm) : Json := .text a.name

def Algorithm.ofJson? (j : Json) : Option Algorithm := j.choice?.bind ofName?

def bytesToJson (bs : Bytes) : Json := .array (bs.map fun b => .natural b.toNat)

def bytesOfJson? (j : Json) : Option Bytes := j.array? fun item => (item.below? 256).map UInt8.ofNat

def Params.toJson (p : Params) : Json :=
  .record [("salt", .option bytesToJson p.salt), ("info", .option bytesToJson p.info),
    ("output_length", .word p.outputLength),
    ("iterations", .option (fun n => .natural n.toNat) p.iterations)]

def Params.ofJson? (j : Json) : Option Params := do
  match ← j.record? ["salt", "info", "output_length", "iterations"] with
  | [salt, info, outputLength, iterations] =>
    return {
      salt := ← Json.optional bytesOfJson? salt
      info := ← Json.optional bytesOfJson? info
      outputLength := ← Json.required Json.word? outputLength
      iterations := ← Json.optional (fun j => (j.below? UInt32.size).map UInt32.ofNat) iterations }
  | _ => none

end TieredLedger.KeyDerivation
