import TieredLedger.Proofs.Block
import TieredLedger.Proofs.FileTree
import TieredLedger.Proofs.Store.Memory
import TieredLedger.Proofs.Token
import TieredLedger.Store.Directory

/-! What each call does to a store in a directory, and which files it looks at. The text of a description is read back
into the description, with its times as texts stand for them. -/
namespace TieredLedger.Description

def settled (d : Description) : Description :=
  { d with createdAt := d.createdAt.settled, accessedAt := d.accessedAt.map Instant.settled }

private theorem plain_toJson (d : Description) : d.toJson.Plain := by
  refine Json.Plain.record fun field hfield => ?_
  simp only [List.mem_cons, List.not_mem_nil, or_false] at hfield
  rcases hfield with rfl | rfl | rfl | rfl | rfl | rfl | rfl | rfl | rfl
  · exact .string _
  · exact .string _
  · exact .natural _
  · exact .string _
  · exact .bool _
  · exact .option (fun s => .string (some s)) _
  · exact .option (fun s => .string (some s)) _
  · exact .string _
  · exact .option (fun t => .string (some (Timestamp.text t))) _

private theorem ofJson?_toJson (d : Description) : ofJson? d.toJson = some d.settled := by
  have htext : ∀ o : Option String, Json.optional Json.text? (some (.option .text o)) = some (o.map id) :=
    Json.optional_option (fun _ => rfl) fun _ => Json.noConfusion
  have haccessed := Json.optional_option Instant.ofJson?_toJson (fun _ => Json.noConfusion) d.accessedAt
  have hrecord := Json.record?_record [("handle", .text d.handle), ("content_type", .text d.contentType),
    ("size_bytes", .word d.size), ("checksum", .text d.checksum), ("password_protected", .bool d.sealed),
    ("signature", .option .text d.signature), ("owner_key", .option .text d.owner),
    ("created_at", d.createdAt.toJson), ("last_accessed_at", .option Instant.toJson d.accessedAt)]
    (by simp only [List.map_cons, List.map_nil]; decide)
  simp only [List.map_cons, List.map_nil] at hrecord
  rw [ofJson?, toJson, hrecord]
  simp only [Option.bind_eq_bind, Option.bind_some, Json.required, Json.word?_word, htext, haccessed,
    Instant.ofJson?_toJson, Option.map_id, id]
  rfl

/-- The text of a description holds the description that it stands for. -/
theorem read?_write (d : Description) : read? d.write = some d.settled := by
  rw [read?, write, Json.parse?_pretty d.plain_toJson]
  exact d.ofJson?_toJson

end TieredLedger.Description

namespace TieredLedger.DirectoryStore

variable {s s' : DirectoryStore} {g handle : String} {d : Description} {data kept : Bytes} {password : Option String}

section Calls

private theorem run_get : (get : StoreM DirectoryStore DirectoryStore).run s = (.ok s, s) := rfl

private theorem run_isThere (path : String) : (isThere path).run s = (.ok (s.tree.contains path), s) := rfl

private theorem run_onTree (failure : FileError → StoreError) (act : FileTree → Except FileError FileTree) :
    (onTree failure act).run s =
      match act s.tree with
      | .ok tree => (.ok (), { s with tree })
      | .error cause => (.error (failure cause), s) := by
  rw [onTree, StoreM.run_bind, run_get]
  simp only
  cases act s.tree <;> rfl

def described (s : DirectoryStore) (handle : String) : Except StoreError Description :=
  let path := descriptionPath s.base handle
  if s.tree.contains path = false then .error (.unknownHandle handle)
  else
    match s.tree.readText path with
    | .error cause => .error (.readDescription cause)
    | .ok text =>
      match Description.read? text with
      | some d => .ok d
      | none => .error .parseDescription

/-- The description of a blob is read without a change. -/
theorem run_describe : (describe handle).run s = (s.described handle, s) := by
  rw [describe, StoreM.run_bind, run_get]
  simp only [StoreM.run_bind, run_isThere, described]
  cases s.tree.contains (descriptionPath s.base handle) with
  | false => rfl
  | true =>
    simp only [Bool.not_true, Bool.false_eq_true, if_false, StoreM.run_bind, run_get, reduceCtorEq]
    cases s.tree.readText (descriptionPath s.base handle) with
    | error cause => rfl
    | ok text =>
      simp only
      cases Description.read? text <;> rfl

def keptAt (s : DirectoryStore) (handle : String) : Except StoreError Bytes :=
  let path := blobPath s.base handle
  if s.tree.contains path = false then .error (.unknownHandle handle)
  else
    match s.tree.read path with
    | .error cause => .error (.readFile cause)
    | .ok bytes => .ok bytes

/-- The bytes of a blob are read without a change. -/
theorem run_readBlob : (readBlob handle).run s = (s.keptAt handle, s) := by
  rw [readBlob, StoreM.run_bind, run_get]
  simp only [StoreM.run_bind, run_isThere, keptAt]
  cases s.tree.contains (blobPath s.base handle) with
  | false => rfl
  | true =>
    simp only [Bool.not_true, Bool.false_eq_true, if_false, StoreM.run_bind, run_get, reduceCtorEq]
    cases s.tree.read (blobPath s.base handle) <;> rfl

/-- A blob is there if both of its files are. -/
theorem run_contains : (contains handle).run s =
    (.ok (s.tree.contains (descriptionPath s.base handle) && s.tree.contains (blobPath s.base handle)), s) := by
  rw [contains, StoreM.run_bind, run_get]
  simp only [StoreM.run_bind, run_isThere]
  cases s.tree.contains (descriptionPath s.base handle) <;> rfl

/-- The size of a blob is the one on record. -/
theorem run_size : (size handle).run s = ((s.described handle).map Description.size, s) := by
  rw [size, StoreM.run_bind, run_describe]
  cases s.described handle <;> rfl

/-- A check sets the checksum on record against that of the bytes. -/
theorem run_verify : (verify handle).run s =
    (do
      let d ← s.described handle
      let kept ← s.keptAt handle
      return ⟨d.checksum, checksum kept⟩, s) := by
  rw [verify, StoreM.run_bind, run_describe]
  cases s.described handle with
  | error e => rfl
  | ok d =>
    simp only [StoreM.run_bind, run_readBlob]
    cases s.keptAt handle <;> rfl

/-- A description goes to the file of the handle that it names. -/
theorem run_saveDescription : (saveDescription d).run s =
    match s.tree.write (descriptionPath s.base d.handle) (Bytes.ofText d.write) with
    | .ok tree => (.ok (), { s with tree })
    | .error cause => (.error (.writeDescription cause), s) := by
  rw [saveDescription, StoreM.run_bind, run_get]
  simp only [run_onTree]

def noted (d : Description) (now : Instant) : Description := { d with accessedAt := some now }

/-- A fetch that gives the data notes the access, in the description on record. -/
theorem run_fetch (now : Instant) : (fetch now handle password).run s =
    match s.described handle, s.keptAt handle with
    | .error e, _ => (.error e, s)
    | .ok _, .error e => (.error e, s)
    | .ok d, .ok kept =>
      match unlock d handle kept password with
      | .error e => (.error e, s)
      | .ok data =>
        match s.tree.write (descriptionPath s.base d.handle) (Bytes.ofText (noted d now).write) with
        | .ok tree => (.ok data, { s with tree })
        | .error cause => (.error (.writeDescription cause), s) := by
  rw [fetch, StoreM.run_bind, run_describe]
  cases s.described handle with
  | error e => rfl
  | ok d =>
    simp only [StoreM.run_bind, run_readBlob]
    cases s.keptAt handle with
    | error e => rfl
    | ok kept =>
      simp only
      cases unlock d handle kept password with
      | error e => rfl
      | ok data =>
        have hgiven : (StoreM.ofExcept (.ok data) : StoreM DirectoryStore Bytes).run s = (.ok data, s) := rfl
        simp only [hgiven, run_saveDescription, noted]
        cases s.tree.write (descriptionPath s.base d.handle) _ <;> rfl

/-- A file is removed if it is there. -/
theorem run_removeFile (path : String) : (removeFile path).run s =
    if s.tree.contains path = true then
      match s.tree.remove path with
      | .ok tree => (.ok (), { s with tree })
      | .error cause => (.error (.removeFile (Text.quoted path) cause), s)
    else (.ok (), s) := by
  rw [removeFile, StoreM.run_bind, run_isThere]
  cases s.tree.contains path with
  | false => rfl
  | true =>
    simp only [if_true]
    exact run_onTree _ _

/-- A removal takes the bytes first, and the description only if that goes well. -/
theorem run_delete : (delete handle).run s =
    if s.tree.contains (descriptionPath s.base handle) = false then (.error (.unknownHandle handle), s)
    else
      match (removeFile (blobPath s.base handle)).run s with
      | (.ok _, s') => (removeFile (descriptionPath s.base handle)).run s'
      | (.error e, s') => (.error e, s') := by
  rw [delete, StoreM.run_bind, run_get]
  simp only [StoreM.run_bind, run_isThere]
  cases s.tree.contains (descriptionPath s.base handle) with
  | false => rfl
  | true =>
    simp only [Bool.not_true, Bool.false_eq_true, if_false, StoreM.run_bind, reduceCtorEq]
    obtain ⟨answer, s'⟩ := (removeFile (blobPath s.base handle)).run s
    cases answer <;> rfl

/-- The bytes that are kept for some data: a token, if there is a password to seal them under. -/
def keptFor (s : DirectoryStore) (data : Bytes) : Option String → Bytes
  | none => data
  | some password =>
    match cipher.encrypt (s.draws s.drawn) data password with
    | .ok token => Bytes.ofText token
    | .error _ => []

def afterDraw (s : DirectoryStore) : Option String → DirectoryStore
  | none => s
  | some _ => { s with drawn := s.drawn + 1 }

@[simp] theorem base_afterDraw (password : Option String) : (s.afterDraw password).base = s.base := by
  cases password <;> rfl

@[simp] theorem tree_afterDraw (password : Option String) : (s.afterDraw password).tree = s.tree := by
  cases password <;> rfl

private theorem run_prepare (data : Bytes) (password : Option String) :
    (prepare data password).run s = (.ok (s.keptFor data password), s.afterDraw password) := by
  cases password with
  | none => rfl
  | some password =>
    obtain ⟨token, htoken⟩ :=
      TokenCipher.exists_encrypt (c := cipher) (Nat.le_refl _) (s.draws s.drawn) data password
    rw [prepare, StoreM.run_bind, run_get]
    simp only [keptFor, StoreM.run_bind, htoken]
    rfl

/-- Bytes that are not sealed need no password. -/
theorem unlock_of_not_sealed (h : d.sealed = false) : unlock d handle kept password = .ok kept := by
  unfold unlock
  rw [h]
  rfl

/-- Sealed bytes are refused without a password. -/
theorem unlock_without_password (h : d.sealed = true) :
    unlock d handle kept none = .error (.passwordNeeded handle) := by
  unfold unlock
  rw [h]
  rfl

/-- The password that data were stored with gets them back. -/
theorem unlock_keptFor (hsealed : d.sealed = password.isSome) (handle : String) :
    unlock d handle (s.keptFor data password) password = .ok data := by
  cases password with
  | none =>
    rw [unlock, hsealed]
    rfl
  | some password =>
    obtain ⟨token, htoken⟩ :=
      TokenCipher.exists_encrypt (c := cipher) (Nat.le_refl _) (s.draws s.drawn) data password
    rw [unlock, hsealed]
    simp only [Option.isSome_some, if_true, keptFor, htoken, Utf8.decode_ofText,
      TokenCipher.decrypt_of_encrypt htoken]

def entry (now : Instant) (request : StoreRequest) (data kept : Bytes) : Description where
  handle := Handle.make request.hint (checksum kept)
  contentType := request.contentType
  size := UInt64.ofNat data.length
  checksum := TieredLedger.checksum kept
  sealed := request.password.isSome
  signature := request.signingKey.map fun key => Bytes.hex (Hmac.code key kept)
  owner := request.owner
  createdAt := now
  accessedAt := none

def refOf (handle checksum : String) (d : Description) : BlobRef :=
  ⟨handle, checksum, d.size, d.contentType, false, d.createdAt⟩

def recorded (s : DirectoryStore) (handle checksum : String) : Option Description :=
  match s.described handle with
  | .ok d => if d.checksum = checksum then some d else none
  | .error _ => none

private theorem run_onRecord (handle checksum : String) :
    (onRecord handle checksum).run s = (.ok (s.recorded handle checksum), s) := by
  change onRecord handle checksum s = _
  unfold onRecord recorded
  rw [run_describe]
  cases s.described handle <;> rfl

/-- Data are stored by writing two files, unless a description with their checksum is on record. -/
theorem run_put (now : Instant) (data : Bytes) (request : StoreRequest) : (put now data request).run s =
    let kept := s.keptFor data request.password
    let new := entry now request data kept
    let drawn := s.afterDraw request.password
    match s.recorded new.handle new.checksum with
    | some d => (.ok (refOf new.handle new.checksum d), drawn)
    | none =>
      match s.tree.write (blobPath s.base new.handle) kept with
      | .error cause => (.error (.createFile cause), drawn)
      | .ok tree =>
        match tree.write (descriptionPath s.base new.handle) (Bytes.ofText new.write) with
        | .error cause => (.error (.writeDescription cause), { drawn with tree })
        | .ok tree => (.ok (refOf new.handle new.checksum new), { drawn with tree }) := by
  have hrecorded : ∀ handle checksum, (s.afterDraw request.password).recorded handle checksum =
      s.recorded handle checksum := by
    intro handle checksum
    cases request.password <;> rfl
  rw [put, StoreM.run_bind, run_prepare]
  generalize s.keptFor data request.password = kept
  simp only [StoreM.run_bind, run_onRecord, hrecorded, entry]
  generalize TieredLedger.checksum kept = sum
  generalize Handle.make request.hint sum = handle
  cases s.recorded handle sum with
  | some d => rfl
  | none =>
    simp only [StoreM.run_bind, run_get, run_onTree, base_afterDraw, tree_afterDraw]
    cases s.tree.write (blobPath s.base handle) kept with
    | error cause => rfl
    | ok tree =>
      simp only [run_saveDescription]
      generalize Description.write _ = text
      cases tree.write (descriptionPath s.base handle) (Bytes.ofText text) <;> rfl

/-- A check of the store writes a marker, lists the descriptions and removes the marker. -/
theorem run_health : health.run s =
    if s.tree.contains s.base = false then (.ok (.bad "Base path does not exist"), s)
    else
      match s.tree.write (join s.base ".health_check") (Bytes.ofText "health_check") with
      | .error cause => (.ok (.bad ("Write test failed: " ++ cause.message)), s)
      | .ok tree =>
        let after := (tree.remove (join s.base ".health_check")).toOption.getD tree
        (match after.list (descriptionsPath s.base) with
          | .error cause => .error (.listDescriptions cause)
          | .ok names => .ok (.good (names.filter isDescriptionName).length),
          { s with tree := after }) := by
  rw [health, StoreM.run_bind, run_get]
  simp only [StoreM.run_bind, run_isThere]
  cases s.tree.contains s.base with
  | false => rfl
  | true =>
    simp only [Bool.not_true, Bool.false_eq_true, if_false, StoreM.run_bind, run_get, reduceCtorEq]
    cases s.tree.write _ _ with
    | error cause => rfl
    | ok tree =>
      have hmodify : ∀ f : DirectoryStore → DirectoryStore,
          (modify f : StoreM DirectoryStore Unit).run s = (.ok (), f s) := fun _ => rfl
      simp only [StoreM.run_bind, hmodify, run_get]
      cases FileTree.list _ _ <;> rfl

end Calls

end TieredLedger.DirectoryStore
