import TieredLedger.Block
import TieredLedger.StoreError

/-! What an off-chain store can be asked, what it answers, and the handles it gives to blobs. -/
namespace TieredLedger

structure StoreRequest where
  contentType : String
  password : Option String
  signingKey : Option Bytes
  owner : Option String
  hint : Option String
deriving DecidableEq, Repr

def StoreRequest.ofType (contentType : String) : StoreRequest := ⟨contentType, none, none, none, none⟩

inductive StoreKind
  | directory
  | memory
  | custom
deriving DecidableEq, Repr

def StoreKind.name : StoreKind → String
  | directory => "local"
  | memory => "memory"
  | custom => "custom"

structure Integrity where
  expected : String
  actual : String
deriving DecidableEq, Repr

def Integrity.isValid (i : Integrity) : Bool := i.expected == i.actual

def Integrity.details (i : Integrity) : Option String := if i.isValid then none else some "Checksum mismatch"

structure Health where
  healthy : Bool
  message : String
  blobs : Option Nat
deriving DecidableEq, Repr

def Health.good (blobs : Nat) : Health := ⟨true, "OK", some blobs⟩

def Health.bad (message : String) : Health := ⟨false, message, none⟩

abbrev StoreM (σ : Type) := ExceptT StoreError (StateM σ)

def StoreM.ofExcept {σ α : Type} (r : Except StoreError α) : StoreM σ α := liftM r

structure BlobStore (σ : Type) where
  /-- Whether something is stored under a handle. -/
  contains : String → StoreM σ Bool
  /-- Stores bytes and says where they are. -/
  put : Instant → Bytes → StoreRequest → StoreM σ BlobRef
  /-- The bytes under a handle, given the password if there is one. -/
  fetch : Instant → (handle : String) → (password : Option String) → StoreM σ Bytes

def checksum (bs : Bytes) : String := Sha256.hexDigest bs

namespace Handle

def defaultHint : String := "blob"

def suffixLength : Nat := 32

def isAllowed (c : Char) : Bool := c.isAlphanum || c = '-' || c = '_'

def sanitized (hint : Option String) : List Char :=
  match ((hint.getD defaultHint).toList.map fun c => if isAllowed c then c else '_') with
  | [] => defaultHint.toList
  | cs => cs

def make (hint : Option String) (checksum : String) : String :=
  String.ofList (sanitized hint ++ '-' :: checksum.toList.take suffixLength)

end Handle

end TieredLedger
