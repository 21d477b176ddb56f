import TieredLedger.Proofs.Store.Files

/-! What a call of a store in a directory does to its files, and what a blob that is stored answers. -/
namespace TieredLedger.DirectoryStore

variable {s s' : DirectoryStore} {g handle : String} {p q : Place} {d : Description} {data kept : Bytes} {size : UInt64}
  {isSealed : Bool} {password : Option String} {content : Option Bytes} {now : Instant} {request : StoreRequest}

section Outcomes

@[simp] theorem described_afterDraw (password : Option String) (g : String) :
    (s.afterDraw password).described g = s.described g := by
  cases password <;> rfl

@[simp] theorem keptAt_afterDraw (password : Option String) (g : String) :
    (s.afterDraw password).keptAt g = s.keptAt g := by
  cases password <;> rfl

/-- How storing can end, for the bytes to be kept and the description that is written for them. -/
inductive PutOutcome (s : DirectoryStore) (kept : Bytes) (new : Description) (drawn : DirectoryStore) :
    Except StoreError BlobRef → DirectoryStore → Prop
  /-- A description with their checksum is on record. -/
  | onRecord {d : Description} (hd : s.described new.handle = .ok d) (hsum : d.checksum = new.checksum) :
    PutOutcome s kept new drawn (.ok (refOf new.handle new.checksum d)) drawn
  /-- The bytes could not be written. -/
  | refused (hnew : ∀ d, s.described new.handle = .ok d → d.checksum ≠ new.checksum) (cause : FileError) :
    PutOutcome s kept new drawn (.error (.createFile cause)) drawn
  /-- The bytes were written, but not their description. -/
  | unlisted {p : Place} {s' : DirectoryStore}
    (hnew : ∀ d, s.described new.handle = .ok d → d.checksum ≠ new.checksum)
    (hp : s.tree.locate (blobPath s.base new.handle) = .ok p) (hkept : Differs s p (some kept) s')
    (cause : FileError) : PutOutcome s kept new drawn (.error (.writeDescription cause)) s'
  /-- Both files were written. -/
  | stored {p q : Place} {mid s' : DirectoryStore}
    (hnew : ∀ d, s.described new.handle = .ok d → d.checksum ≠ new.checksum)
    (hp : s.tree.locate (blobPath s.base new.handle) = .ok p) (hkept : Differs s p (some kept) mid)
    (hq : mid.tree.locate (descriptionPath mid.base new.handle) = .ok q)
    (hentered : Differs mid q (some (Bytes.ofText new.write)) s') :
    PutOutcome s kept new drawn (.ok (refOf new.handle new.checksum new)) s'

/-- Storing ends in one of the ways told of. -/
theorem put_cases {answer : Except StoreError BlobRef} (hrun : (put now data request).run s = (answer, s')) :
    PutOutcome s (s.keptFor data request.password) (entry now request data (s.keptFor data request.password))
      (s.afterDraw request.password) answer s' := by
  rw [run_put] at hrun
  dsimp only at hrun
  generalize s.keptFor data request.password = kept at hrun ⊢
  generalize entry now request data kept = new at hrun ⊢
  cases hrecorded : s.recorded new.handle new.checksum with
  | some d =>
    rw [hrecorded] at hrun
    cases hrun
    obtain ⟨hd, hsum⟩ := recorded_eq_some.1 hrecorded
    exact .onRecord hd hsum
  | none =>
    have hnew : ∀ d, s.described new.handle = .ok d → d.checksum ≠ new.checksum := by
      intro d hd hsum
      rw [recorded_eq_some.2 ⟨hd, hsum⟩] at hrecorded
      cases hrecorded
    rw [hrecorded] at hrun
    dsimp only at hrun
    split at hrun
    · next cause _ =>
      cases hrun
      exact .refused hnew cause
    next tree hwrite =>
    obtain ⟨p, hp, hchanges⟩ := FileTree.changes_of_write hwrite
    have hkept : Differs s p (some kept) { s.afterDraw request.password with tree } := ⟨base_afterDraw _, hchanges⟩
    split at hrun
    · next cause _ =>
      cases hrun
      exact .unlisted hnew hp hkept cause
    · next tree' henter =>
      cases hrun
      obtain ⟨q, hq, hentered⟩ := FileTree.changes_of_write henter
      exact .stored hnew hp hkept (by rwa [base_afterDraw]) ⟨rfl, hentered⟩

/-- The handle of what is stored tells of the bytes that are kept. -/
theorem handle_of_put {ref : BlobRef} (hrun : (put now data request).run s = (.ok ref, s')) :
    ref.handle = Handle.make request.hint (checksum (s.keptFor data request.password)) := by
  cases put_cases hrun <;> rfl

/-- The handle of what is stored is a name. -/
theorem isName_of_put {ref : BlobRef} (hrun : (put now data request).run s = (.ok ref, s')) :
    Handle.IsName ref.handle := by
  rw [handle_of_put hrun]
  exact Handle.isName_make _ _

/-- The checksum of what is stored is that of the bytes that are kept. -/
theorem checksum_of_put {ref : BlobRef} (hrun : (put now data request).run s = (.ok ref, s')) :
    ref.checksum = checksum (s.keptFor data request.password) := by
  cases put_cases hrun <;> rfl

/-- Storing touches no files but those of the handle that it makes. -/
theorem within_of_put {answer : Except StoreError BlobRef} (hrun : (put now data request).run s = (answer, s')) :
    Within s (Handle.make request.hint (checksum (s.keptFor data request.password))) s' := by
  have hdrawn : Within s (Handle.make request.hint (checksum (s.keptFor data request.password)))
      (s.afterDraw request.password) := by
    refine ⟨base_afterDraw _, fun q => ?_, fun q _ _ => ?_⟩
    · rw [tree_afterDraw]
    · rw [tree_afterDraw]
  cases put_cases hrun with
  | onRecord => exact hdrawn
  | refused => exact hdrawn
  | unlisted hnew hp hkept => exact .of_differs hkept (Or.inl hp)
  | stored hnew hp hkept hq hentered =>
    refine (Within.of_differs hkept (Or.inl hp)).trans (.of_differs hentered (Or.inr hq))

/-- The bytes are got and the access is noted in the description, or nothing changes. -/
theorem fetch_cases {answer : Except StoreError Bytes} (hrun : (fetch now handle password).run s = (answer, s')) :
    s' = s ∨ ∃ d p, s.described handle = .ok d ∧ s.tree.locate (descriptionPath s.base d.handle) = .ok p ∧
      Differs s p (some (Bytes.ofText (noted d now).write)) s' := by
  rw [run_fetch] at hrun
  split at hrun
  · cases hrun
    exact Or.inl rfl
  · cases hrun
    exact Or.inl rfl
  next d kept hd _ =>
  split at hrun
  · cases hrun
    exact Or.inl rfl
  split at hrun
  · next tree hwrite =>
    cases hrun
    obtain ⟨p, hp, hnoted⟩ := FileTree.changes_of_write hwrite
    exact Or.inr ⟨d, p, hd, hp, rfl, hnoted⟩
  · cases hrun
    exact Or.inl rfl

/-- How a file can come to be removed: it was not there, or it is gone now. -/
inductive Removed (s : DirectoryStore) (path : String) : DirectoryStore → Prop
  | absent (habsent : s.tree.contains path = false) : Removed s path s
  | gone {p : Place} {s' : DirectoryStore} (hthere : s.tree.contains path = true) (hp : s.tree.locate path = .ok p)
    (hdiffers : Differs s p none s') : Removed s path s'

theorem Removed.base {path : String} (h : Removed s path s') : s'.base = s.base := by
  cases h with
  | absent => rfl
  | gone hthere hp hdiffers => exact hdiffers.base

/-- A removed file is not there. -/
theorem Removed.not_contains {path : String} (h : Removed s path s') : s'.tree.contains path = false := by
  cases h with
  | absent habsent => exact habsent
  | gone hthere hp hdiffers => exact hdiffers.tree.contains_here hp

/-- A removal that goes well leaves no file. -/
theorem removed_of_removeFile {path : String} (hrun : (removeFile path).run s = (.ok (), s')) : Removed s path s' := by
  rw [run_removeFile] at hrun
  split at hrun
  · next hthere =>
    split at hrun
    · next tree hremove =>
      cases hrun
      obtain ⟨p, hp, hchanges⟩ := FileTree.changes_of_remove hremove
      exact .gone hthere hp ⟨rfl, hchanges⟩
    · cases hrun
  · next hthere =>
    cases hrun
    exact .absent (Bool.eq_false_iff.2 hthere)

/-- A removal that fails changes nothing. -/
theorem eq_of_removeFile_error {path : String} {e : StoreError} (hrun : (removeFile path).run s = (.error e, s')) :
    s' = s := by
  rw [run_removeFile] at hrun
  split at hrun
  · split at hrun
    · cases hrun
    · cases hrun
      rfl
  · cases hrun

private theorem removeFile_cases {path : String} {answer : Except StoreError Unit}
    (hrun : (removeFile path).run s = (answer, s')) :
    s' = s ∨ ∃ p, s.tree.locate path = .ok p ∧ Differs s p none s' := by
  cases answer with
  | error e => exact Or.inl (eq_of_removeFile_error hrun)
  | ok _ =>
    cases removed_of_removeFile hrun with
    | absent => exact Or.inl rfl
    | gone _ hp hdiffers => exact Or.inr ⟨_, hp, hdiffers⟩

/-- Removing a blob removes its bytes and its description, or stops before. -/
theorem delete_cases {answer : Except StoreError Unit} (hrun : (delete handle).run s = (answer, s')) :
    ∃ mid, (mid = s ∨ ∃ p, s.tree.locate (blobPath s.base handle) = .ok p ∧ Differs s p none mid) ∧
      (s' = mid ∨ ∃ q, mid.tree.locate (descriptionPath s.base handle) = .ok q ∧ Differs mid q none s') := by
  rw [run_delete] at hrun
  split at hrun
  · cases hrun
    exact ⟨s, Or.inl rfl, Or.inl rfl⟩
  split at hrun
  · next mid hfirst => exact ⟨mid, removeFile_cases hfirst, removeFile_cases hrun⟩
  · next mid hfirst =>
    cases hrun
    exact ⟨s', removeFile_cases hfirst, Or.inl rfl⟩

/-- Removing a blob touches no files but its own. -/
theorem within_of_delete {answer : Except StoreError Unit} (hrun : (delete handle).run s = (answer, s')) :
    Within s handle s' := by
  obtain ⟨mid, hfirst, hsecond⟩ := delete_cases hrun
  have hmid : Within s handle mid := by
    rcases hfirst with rfl | ⟨p, hp, hdiffers⟩
    · exact .refl _ _
    · exact .of_differs hdiffers (Or.inl hp)
  rcases hsecond with rfl | ⟨q, hq, hdiffers⟩
  · exact hmid
  · refine hmid.trans (.of_differs hdiffers (Or.inr ?_))
    rw [hmid.base]
    exact hq

/-- The marker is written, and removed if it can be. -/
theorem changes_of_marker {tree : FileTree}
    (hwrite : s.tree.write (join s.base ".health_check") (Bytes.ofText "health_check") = .ok tree) :
    ∃ p content, s.tree.locate (join s.base ".health_check") = .ok p ∧
      FileTree.Changes s.tree p content ((tree.remove (join s.base ".health_check")).toOption.getD tree) := by
  obtain ⟨p, hp, hmarked⟩ := FileTree.changes_of_write hwrite
  cases hremove : tree.remove (join s.base ".health_check") with
  | error cause => exact ⟨p, _, hp, hmarked⟩
  | ok after =>
    obtain ⟨r, hr, hremoved⟩ := FileTree.changes_of_remove hremove
    rw [hmarked.locate_eq_ok, hp] at hr
    obtain rfl := Except.ok.inj hr
    exact ⟨p, _, hp, hmarked.trans hremoved⟩

private theorem health_cases {answer : Except StoreError Health} (hrun : health.run s = (answer, s')) :
    s' = s ∨ ∃ p content, s.tree.locate (join s.base ".health_check") = .ok p ∧ Differs s p content s' := by
  rw [run_health] at hrun
  split at hrun
  · cases hrun
    exact Or.inl rfl
  split at hrun
  · cases hrun
    exact Or.inl rfl
  next tree hwrite =>
  cases hrun
  obtain ⟨p, content, hp, hafter⟩ := changes_of_marker hwrite
  exact Or.inr ⟨p, content, hp, rfl, hafter⟩

/-- What every change of the marker keeps, a health check keeps. -/
theorem of_health {P : DirectoryStore → Prop} {answer : Except StoreError Health}
    (hmarker : ∀ t t' p content, P t → t.tree.locate (join t.base ".health_check") = .ok p → Differs t p content t' →
      P t') (h : P s) (hrun : health.run s = (answer, s')) : P s' := by
  rcases health_cases hrun with rfl | ⟨p, content, hp, hdiffers⟩
  · exact h
  · exact hmarker _ _ p content h hp hdiffers

end Outcomes

/-- The two files that a handle leads to can be removed one after the other. -/
theorem exists_removals_of_described (hkept : s.keptAt handle = .ok kept) (hd : s.described handle = .ok d) :
    ∃ p q mid s', (removeFile (blobPath s.base handle)).run s = (.ok (), mid) ∧
      (removeFile (descriptionPath s.base handle)).run mid = (.ok (), s') ∧
      s.tree.locate (blobPath s.base handle) = .ok p ∧ Differs s p none mid ∧
      s.tree.locate (descriptionPath s.base handle) = .ok q ∧ Differs mid q none s' := by
  obtain ⟨bytes, hread, -⟩ := described_eq_ok.1 hd
  rw [keptAt_eq_ok] at hkept
  obtain ⟨p, tree, hremove, hp, hblob⟩ := FileTree.exists_remove hkept
  have hmid : Differs s p none { s with tree } := ⟨rfl, hblob⟩
  have hstill : tree.read (descriptionPath s.base handle) = .ok bytes :=
    (hblob.read_elsewhere fun q hq => (blob_ne_description hp hq).symm).2 hread
  obtain ⟨q, after, hremoveToo, hq, hdescription⟩ := FileTree.exists_remove hstill
  refine ⟨p, q, { s with tree }, { s with tree := after }, ?_, ?_, hp, hmid, hmid.locate_eq_ok.1 hq, rfl, hdescription⟩
  · rw [run_removeFile, if_pos (FileTree.contains_of_read hkept), hremove]
  · rw [run_removeFile, if_pos (FileTree.contains_of_read hstill), hremoveToo]

/-- What a handle leads to can be removed, and leaves no file. -/
theorem exists_run_delete_of_described (hkept : s.keptAt handle = .ok kept) (hd : s.described handle = .ok d) :
    ∃ p q mid s', (delete handle).run s = (.ok (), s') ∧ s.tree.locate (blobPath s.base handle) = .ok p ∧
      Differs s p none mid ∧ s.tree.locate (descriptionPath s.base handle) = .ok q ∧ Differs mid q none s' := by
  obtain ⟨p, q, mid, s', hfirst, hsecond, hp, hmid, hq, hlast⟩ := exists_removals_of_described hkept hd
  obtain ⟨bytes, hread, -⟩ := described_eq_ok.1 hd
  refine ⟨p, q, mid, s', ?_, hp, hmid, hq, hlast⟩
  rw [run_delete, FileTree.contains_of_read hread, if_neg Bool.true_eq_false_eq_False, hfirst]
  exact hsecond

/-- A blob is in a store: its bytes are kept, and what is on record for its handle describes them. -/
structure Holds (s : DirectoryStore) (handle : String) (kept : Bytes) (size : UInt64) (isSealed : Bool) : Prop where
  keptAt : s.keptAt handle = .ok kept
  described : ∃ d, s.described handle = .ok d ∧ d.handle = handle ∧ d.checksum = checksum kept ∧ d.size = size ∧
    d.sealed = isSealed

namespace Holds

/-- A blob in its store is there. -/
theorem run_contains (h : s.Holds handle kept size isSealed) : (contains handle).run s = (.ok true, s) := by
  obtain ⟨d, hd, -⟩ := h.described
  obtain ⟨bytes, hread, -⟩ := described_eq_ok.1 hd
  rw [DirectoryStore.run_contains, FileTree.contains_of_read hread,
    FileTree.contains_of_read (keptAt_eq_ok.1 h.keptAt)]
  rfl

/-- The size of a blob in its store is the one on record. -/
theorem run_size (h : s.Holds handle kept size isSealed) : (DirectoryStore.size handle).run s = (.ok size, s) := by
  obtain ⟨d, hd, -, -, hsize, -⟩ := h.described
  rw [DirectoryStore.run_size, hd, ← hsize]
  rfl

/-- A blob in its store passes its check. -/
theorem run_verify (h : s.Holds handle kept size isSealed) :
    (verify handle).run s = (.ok ⟨checksum kept, checksum kept⟩, s) := by
  obtain ⟨d, hd, -, hsum, -⟩ := h.described
  rw [DirectoryStore.run_verify, hd, h.keptAt]
  simp only [bind, Except.bind, hsum]
  rfl

/-- A blob that is unlocked is got, and is still there with the access noted. -/
theorem exists_run_fetch (h : s.Holds handle kept size isSealed) (now : Instant)
    (hunlock : ∀ d : Description, d.sealed = isSealed → unlock d handle kept password = .ok data) :
    ∃ s' d p, (fetch now handle password).run s = (.ok data, s') ∧ s.described handle = .ok d ∧ d.handle = handle ∧
      s.tree.locate (descriptionPath s.base handle) = .ok p ∧
      Differs s p (some (Bytes.ofText (noted d now).write)) s' := by
  obtain ⟨d, hd, hhandle, -, -, hsealed⟩ := h.described
  obtain ⟨p, bytes, hp, hnode⟩ := exists_place_of_described hd
  obtain ⟨tree, hwrite, hchanges⟩ := FileTree.exists_write hp (by rw [hnode]; simp) (Bytes.ofText (noted d now).write)
  refine ⟨{ s with tree }, d, p, ?_, hd, hhandle, hp, rfl, hchanges⟩
  rw [run_fetch, hd, h.keptAt]
  simp only [hunlock d hsealed, hhandle, hwrite]

/-- A blob that cannot be opened is not fetched, and nothing is noted. -/
theorem run_fetch_error {e : StoreError} (h : s.Holds handle kept size isSealed) (now : Instant)
    (hunlock : ∀ d : Description, d.sealed = isSealed → unlock d handle kept password = .error e) :
    (fetch now handle password).run s = (.error e, s) := by
  obtain ⟨d, hd, -, -, -, hsealed⟩ := h.described
  rw [run_fetch, hd, h.keptAt]
  simp only [hunlock d hsealed]

/-- Both files of a blob in its store can be removed. -/
theorem exists_removals (h : s.Holds handle kept size isSealed) : ∃ p q mid s',
    (removeFile (blobPath s.base handle)).run s = (.ok (), mid) ∧
      (removeFile (descriptionPath s.base handle)).run mid = (.ok (), s') ∧
      s.tree.locate (blobPath s.base handle) = .ok p ∧ Differs s p none mid ∧
      s.tree.locate (descriptionPath s.base handle) = .ok q ∧ Differs mid q none s' := by
  obtain ⟨d, hd, -⟩ := h.described
  exact exists_removals_of_described h.keptAt hd

/-- A blob in its store has a description. -/
theorem contains_description (h : s.Holds handle kept size isSealed) :
    s.tree.contains (descriptionPath s.base handle) = true := by
  obtain ⟨d, hd, -⟩ := h.described
  obtain ⟨bytes, hread, -⟩ := described_eq_ok.1 hd
  exact FileTree.contains_of_read hread

/-- A blob in its store can be removed. -/
theorem exists_run_delete (h : s.Holds handle kept size isSealed) : ∃ p q mid s',
    (delete handle).run s = (.ok (), s') ∧ s.tree.locate (blobPath s.base handle) = .ok p ∧ Differs s p none mid ∧
      s.tree.locate (descriptionPath s.base handle) = .ok q ∧ Differs mid q none s' := by
  obtain ⟨d, hd, -⟩ := h.described
  exact exists_run_delete_of_described h.keptAt hd

/-- A draw of random bytes leaves a blob in its store. -/
theorem afterDraw (h : s.Holds handle kept size isSealed) (password : Option String) :
    (s.afterDraw password).Holds handle kept size isSealed := by
  obtain ⟨d, hd, hfacts⟩ := h.described
  exact ⟨by rw [keptAt_afterDraw, h.keptAt], d, by rw [described_afterDraw, hd], hfacts⟩

/-- What happens to the files of another handle leaves a blob as it is. -/
theorem of_within (h : s.Holds handle kept size isSealed) (hwithin : Within s g s') (hspared : ¬ s.Aliases g handle) :
    s'.Holds handle kept size isSealed := by
  obtain ⟨d, hd, hfacts⟩ := h.described
  obtain ⟨bytes, hread, hin⟩ := described_eq_ok.1 hd
  refine ⟨?_, d, described_eq_ok.2 ⟨bytes, ?_, hin⟩, hfacts⟩
  · rw [keptAt_eq_ok, hwithin.base, hwithin.read_eq_ok fun q hq => ⟨?_, ?_⟩]
    · exact keptAt_eq_ok.1 h.keptAt
    · exact fun hother => hspared ⟨q, Or.inl ⟨hother, hq⟩⟩
    · exact fun hother => blob_ne_description hq hother rfl
  · rw [hwithin.base, hwithin.read_eq_ok fun q hq => ⟨?_, ?_⟩]
    · exact hread
    · exact fun hother => blob_ne_description hother hq rfl
    · exact fun hother => hspared ⟨q, Or.inr ⟨hother, hq⟩⟩

/-- A change elsewhere leaves a blob as it is. -/
theorem elsewhere (h : s.Holds handle kept size isSealed) (hdiffers : Differs s p content s')
    (hdescription : ∀ q, s.tree.locate (descriptionPath s.base handle) = .ok q → q ≠ p)
    (hblob : ∀ q, s.tree.locate (blobPath s.base handle) = .ok q → q ≠ p) : s'.Holds handle kept size isSealed := by
  obtain ⟨d, hd, hfacts⟩ := h.described
  exact ⟨(hdiffers.keptAt_elsewhere hblob).2 h.keptAt, d, (hdiffers.described_elsewhere hdescription).2 hd, hfacts⟩

/-- Noting an access leaves all else that is on record. -/
theorem noted (h : s.Holds handle kept size isSealed) (hd : s.described handle = .ok d)
    (hp : s.tree.locate (descriptionPath s.base handle) = .ok p)
    (hdiffers : Differs s p (some (Bytes.ofText (noted d now).write)) s') : s'.Holds handle kept size isSealed := by
  obtain ⟨e, he, hfacts⟩ := h.described
  rw [hd] at he
  obtain rfl := Except.ok.inj he
  refine ⟨(hdiffers.keptAt_elsewhere fun q hq => blob_ne_description hq hp).2 h.keptAt, _,
    hdiffers.described_here hp, hfacts⟩

end Holds

/-- The two files of data that are stored anew. -/
theorem files_of_entered {mid : DirectoryStore} {kept : Bytes} {new : Description}
    (hp : s.tree.locate (blobPath s.base new.handle) = .ok p) (hkept : Differs s p (some kept) mid)
    (hq : mid.tree.locate (descriptionPath mid.base new.handle) = .ok q)
    (hentered : Differs mid q (some (Bytes.ofText new.write)) s') :
    s'.keptAt new.handle = .ok kept ∧ s'.described new.handle = .ok new.settled := by
  have hmid : mid.keptAt new.handle = .ok kept := hkept.keptAt_here hp
  exact ⟨(hentered.keptAt_elsewhere fun r hr => blob_ne_description hr hq).2 hmid, hentered.described_here hq⟩

/-- Data that are stored anew are in the store. -/
theorem holds_of_entered {mid : DirectoryStore} {kept : Bytes} {new : Description} (hsum : new.checksum = checksum kept)
    (hp : s.tree.locate (blobPath s.base new.handle) = .ok p) (hkept : Differs s p (some kept) mid)
    (hq : mid.tree.locate (descriptionPath mid.base new.handle) = .ok q)
    (hentered : Differs mid q (some (Bytes.ofText new.write)) s') : s'.Holds new.handle kept new.size new.sealed := by
  obtain ⟨hbytes, hdescribed⟩ := files_of_entered hp hkept hq hentered
  exact ⟨hbytes, new.settled, hdescribed, rfl, hsum, rfl, rfl⟩

/-- Data that are stored while nothing with their checksum is on record are in the store. -/
theorem holds_of_new {ref : BlobRef} (hrun : (put now data request).run s = (.ok ref, s'))
    (hnew : ∀ d, s.described ref.handle = .ok d → d.checksum ≠ ref.checksum) :
    s'.Holds ref.handle (s.keptFor data request.password) (UInt64.ofNat data.length) request.password.isSome := by
  cases put_cases hrun with
  | @onRecord d hd hsum => exact absurd hsum (hnew d hd)
  | stored _ hp hkept hq hentered => exact holds_of_entered rfl hp hkept hq hentered

end TieredLedger.DirectoryStore
