import TieredLedger.Block
import TieredLedger.Digest
import TieredLedger.FileTree
import TieredLedger.Json.Printer
import TieredLedger.Json.Reader
import TieredLedger.Store.Interface
import TieredLedger.Text.Quoted
import TieredLedger.Token

/-! A store in a directory: the bytes of a blob in one file, its description in another. -/
namespace TieredLedger

structure Description where
  handle : String
  contentType : String
  /-- The size of the bytes as they were handed in. -/
  size : UInt64
  /-- The checksum of the bytes as they are kept. -/
  checksum : String
  /-- Whether the bytes are sealed under a password. -/
  sealed : Bool
  /-- The authentication code of the bytes as they are kept. -/
  signature : Option String
  owner : Option String
  createdAt : Instant
  accessedAt : Option Instant
deriving DecidableEq, Repr

namespace Description

def toJson (d : Description) : Json :=
  .record [("handle", .text d.handle), ("content_type", .text d.contentType), ("size_bytes", .word d.size),
    ("checksum", .text d.checksum), ("password_protected", .bool d.sealed),
    ("signature", .option .text d.signature), ("owner_key", .option .text d.owner),
    ("created_at", d.createdAt.toJson), ("last_accessed_at", .option Instant.toJson d.accessedAt)]

def ofJson? (j : Json) : Option Description := do
  match ← j.record? ["handle", "content_type", "size_bytes", "checksum", "password_protected", "signature",
      "owner_key", "created_at", "last_accessed_at"] with
  | [handle, contentType, size, checksum, isSealed, signature, owner, createdAt, accessedAt] =>
    return {
      handle := ← Json.required Json.text? handle
      contentType := ← Json.required Json.text? contentType
      size := ← Json.required Json.word? size
      checksum := ← Json.required Json.text? checksum
      sealed := ← Json.required Json.bool? isSealed
      signature := ← Json.optional Json.text? signature
      owner := ← Json.optional Json.text? owner
      createdAt := ← Json.required Instant.ofJson? createdAt
      accessedAt := ← Json.optional Instant.ofJson? accessedAt }
  | _ => none

def write (d : Description) : String := d.toJson.pretty

def read? (s : String) : Option Description := (Json.parse? s).bind ofJson?

end Description

/-- A store in a directory of a file tree, with the random bytes that it seals blobs with. -/
structure DirectoryStore where
  /-- The path of the directory. -/
  base : String
  tree : FileTree
  draws : Nat → Draw
  /-- How many of the draws have been used up. -/
  drawn : Nat

namespace DirectoryStore

def join (directory name : String) : String :=
  if name.toList.head? = some '/' then name else directory ++ "/" ++ name

def dataPath (base : String) : String := join base "data"

def descriptionsPath (base : String) : String := join base "meta"

def blobPath (base handle : String) : String := join (dataPath base) (handle ++ ".dat")

def descriptionPath (base handle : String) : String := join (descriptionsPath base) (handle ++ ".json")

def cipher : TokenCipher := .forBlobs

def makeDirectories (tree : FileTree) : List String → Except StoreError FileTree
  | [] => .ok tree
  | path :: rest =>
    match tree.makeDirectory path with
    | .ok tree => makeDirectories tree rest
    | .error cause => .error (.createDirectory (Text.quoted path) cause)

def openAt (base : String) (tree : FileTree) (draws : Nat → Draw) : Except StoreError DirectoryStore :=
  (makeDirectories tree [base, dataPath base, descriptionsPath base]).map fun tree => ⟨base, tree, draws, 0⟩

def onTree (failure : FileError → StoreError) (act : FileTree → Except FileError FileTree) :
    StoreM DirectoryStore Unit := do
  match act (← get).tree with
  | .ok tree => modify fun s => { s with tree }
  | .error cause => throw (failure cause)

def isThere (path : String) : StoreM DirectoryStore Bool := return (← get).tree.contains path

def describe (handle : String) : StoreM DirectoryStore Description := do
  let path := descriptionPath (← get).base handle
  if !(← isThere path) then throw (.unknownHandle handle)
  match (← get).tree.readText path with
  | .error cause => throw (.readDescription cause)
  | .ok text =>
    match Description.read? text with
    | some d => return d
    | none => throw .parseDescription

def saveDescription (d : Description) : StoreM DirectoryStore Unit := do
  let path := descriptionPath (← get).base d.handle
  onTree .writeDescription fun tree => tree.write path (Bytes.ofText d.write)

def readBlob (handle : String) : StoreM DirectoryStore Bytes := do
  let path := blobPath (← get).base handle
  if !(← isThere path) then throw (.unknownHandle handle)
  match (← get).tree.read path with
  | .error cause => throw (.readFile cause)
  | .ok bytes => return bytes

def contains (handle : String) : StoreM DirectoryStore Bool := do
  let base := (← get).base
  return (← isThere (descriptionPath base handle)) && (← isThere (blobPath base handle))

def prepare (data : Bytes) (password : Option String) : StoreM DirectoryStore Bytes := do
  match password with
  | none => return data
  | some password =>
    let s ← get
    set { s with drawn := s.drawn + 1 }
    match cipher.encrypt (s.draws s.drawn) data password with
    | .ok token => return Bytes.ofText token
    | .error e => throw (.ledger e)

/-- The description on record for a handle, if there is one that can be read and that has the given checksum. -/
def onRecord (handle checksum : String) : StoreM DirectoryStore (Option Description) := fun s =>
  match (describe handle).run s with
  | (.ok d, s) => (.ok (if d.checksum = checksum then some d else none), s)
  | (.error _, s) => (.ok none, s)

/-- Stores bytes. What is on record under the same handle with the same checksum is kept as it is. -/
def put (now : Instant) (data : Bytes) (request : StoreRequest) : StoreM DirectoryStore BlobRef := do
  let kept ← prepare data request.password
  let checksum := TieredLedger.checksum kept
  let handle := Handle.make request.hint checksum
  match ← onRecord handle checksum with
  | some d => return ⟨handle, checksum, d.size, d.contentType, false, d.createdAt⟩
  | none =>
    let path := blobPath (← get).base handle
    onTree .createFile fun tree => tree.write path kept
    let size := UInt64.ofNat data.length
    saveDescription {
      handle, checksum, size
      contentType := request.contentType
      sealed := request.password.isSome
      signature := request.signingKey.map fun key => Bytes.hex (Hmac.code key kept)
      owner := request.owner
      createdAt := now
      accessedAt := none }
    return ⟨handle, checksum, size, request.contentType, false, now⟩

def unlock (d : Description) (handle : String) (kept : Bytes) (password : Option String) : Except StoreError Bytes :=
  if d.sealed then
    match password with
    | none => .error (.passwordNeeded handle)
    | some password =>
      match Utf8.decode kept with
      | .error fault => .error (.sealedText fault)
      | .ok token =>
        match cipher.decrypt token password with
        | .ok data => .ok data
        | .error _ => .error (.wrongPassword handle)
  else .ok kept

def fetch (now : Instant) (handle : String) (password : Option String) : StoreM DirectoryStore Bytes := do
  let d ← describe handle
  let kept ← readBlob handle
  let data ← .ofExcept (unlock d handle kept password)
  saveDescription { d with accessedAt := some now }
  return data

def size (handle : String) : StoreM DirectoryStore UInt64 := return (← describe handle).size

def removeFile (path : String) : StoreM DirectoryStore Unit := do
  if ← isThere path then onTree (.removeFile (Text.quoted path)) fun tree => tree.remove path

def delete (handle : String) : StoreM DirectoryStore Unit := do
  let base := (← get).base
  if !(← isThere (descriptionPath base handle)) then throw (.unknownHandle handle)
  removeFile (blobPath base handle)
  removeFile (descriptionPath base handle)

def verify (handle : String) : StoreM DirectoryStore Integrity := do
  let d ← describe handle
  return ⟨d.checksum, TieredLedger.checksum (← readBlob handle)⟩

def isDescriptionName (name : String) : Bool := name.length > 5 && name.toList.drop (name.length - 5) == ".json".toList

def health : StoreM DirectoryStore Health := do
  let base := (← get).base
  if !(← isThere base) then return .bad "Base path does not exist"
  let marker := join base ".health_check"
  match (← get).tree.write marker (Bytes.ofText "health_check") with
  | .error cause => return .bad ("Write test failed: " ++ cause.message)
  | .ok tree =>
    modify fun s => { s with tree := (tree.remove marker).toOption.getD tree }
    match (← get).tree.list (descriptionsPath base) with
    | .error cause => throw (.listDescriptions cause)
    | .ok names => return .good (names.filter isDescriptionName).length

def api : BlobStore DirectoryStore := ⟨contains, put, fetch⟩

end DirectoryStore

end TieredLedger
