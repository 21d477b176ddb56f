import TieredLedger.Proofs.Store.Opening

/-! Storing data in a directory: they can be got at once, unless a description outlived the bytes that it describes. -/
namespace TieredLedger.DirectoryStore

variable {s s' : DirectoryStore} {now : Instant} {data : Bytes} {request : StoreRequest} {size : UInt64}
  {tree : FileTree}

/-- What is on record for the bytes to be stored is sound: it names its handle, the bytes are where it says, and they are
sealed if and only if there is a password now. -/
def IsSound (s : DirectoryStore) (data : Bytes) (password : Option String) (handle checksum : String) : Prop :=
  ∀ d, s.described handle = .ok d → d.checksum = checksum →
    d.handle = handle ∧ d.sealed = password.isSome ∧ s.keptAt handle = .ok (s.keptFor data password)

private theorem holds_of_put {ref : BlobRef} (hput : (put now data request).run s = (.ok ref, s'))
    (hsound : s.IsSound data request.password ref.handle ref.checksum) :
    ∃ size, s'.Holds ref.handle (s.keptFor data request.password) size request.password.isSome := by
  cases put_cases hput with
  | @onRecord d hd hsum =>
    obtain ⟨hhandle, hsealed, hkept⟩ := hsound d hd hsum
    have hholds : s.Holds _ _ d.size request.password.isSome := ⟨hkept, d, hd, hhandle, hsum, rfl, hsealed⟩
    exact ⟨d.size, hholds.afterDraw request.password⟩
  | stored hnew hp hkept hq hentered => exact ⟨_, holds_of_entered rfl hp hkept hq hentered⟩

/-- What is stored can be got with the same password at once, if what is on record for its bytes is sound. -/
theorem stored_is_found {ref : BlobRef} (hput : (put now data request).run s = (.ok ref, s'))
    (hsound : s.IsSound data request.password ref.handle ref.checksum) (later : Instant) :
    ((contains ref.handle).run s').1 = .ok true ∧ ((fetch later ref.handle request.password).run s').1 = .ok data := by
  obtain ⟨size, hholds⟩ := holds_of_put hput hsound
  obtain ⟨after, d, p, hfetch, -⟩ := hholds.exists_run_fetch later fun d hd => unlock_keptFor hd ref.handle
  rw [hholds.run_contains, hfetch]
  exact ⟨rfl, rfl⟩

def textRequest : StoreRequest := .ofType "text/plain"

private theorem isSound_opened {draws : Nat → Draw} {ref : BlobRef}
    (hput : (put now data request).run (opened draws) = (.ok ref, s')) :
    (opened draws).IsSound data request.password ref.handle ref.checksum := by
  intro d hd
  exact absurd hd ((isEmpty_opened draws).described_ne_ok (isName_of_put hput) d)

private theorem isSound_of_holds {password : Option String} {handle checksum : String}
    (h : s.Holds handle (s.keptFor data password) size password.isSome) : s.IsSound data password handle checksum := by
  obtain ⟨e, he, hhandle, -, -, hsealed⟩ := h.described
  intro d hd _
  obtain rfl := Except.ok.inj (hd.symm.trans he)
  exact ⟨hhandle, hsealed, h.keptAt⟩

private theorem run_put_on_record {d : Description} (now : Instant) (hpassword : request.password = none)
    (hd : s.described (Handle.make request.hint (checksum data)) = .ok d) (hsum : d.checksum = checksum data) :
    (put now data request).run s =
      (.ok (refOf (Handle.make request.hint (checksum data)) (checksum data) d), s) := by
  rw [run_put, hpassword]
  simp only [keptFor, afterDraw, entry, recorded_eq_some.2 ⟨hd, hsum⟩]

/-- Data are stored in an empty store, stored again, answered from the record and found there. -/
theorem stored_again_is_found : ∃ ref s₁ again s₂,
    (put default [1] textRequest).run (opened fun _ => default) = (.ok ref, s₁) ∧
      (put default [1] textRequest).run s₁ = (.ok again, s₂) ∧
      (∃ d, s₁.described again.handle = .ok d ∧ d.checksum = again.checksum) ∧
      ((contains again.handle).run s₂).1 = .ok true ∧ ((fetch default again.handle none).run s₂).1 = .ok [1] := by
  obtain ⟨ref, s₁, hput⟩ := exists_run_put_opened (fun _ => default) default [1] (rfl : textRequest.hint = none)
  obtain ⟨size, hholds⟩ := holds_of_put hput (isSound_opened hput)
  have hhandle : ref.handle = Handle.make textRequest.hint (checksum [1]) := handle_of_put hput
  rw [hhandle] at hholds
  obtain ⟨d, hd, -, hsum, -⟩ := hholds.described
  have hagain := run_put_on_record default (rfl : textRequest.password = none) hd hsum
  have hsound : s₁.IsSound [1] textRequest.password (Handle.make textRequest.hint (checksum [1])) (checksum [1]) :=
    isSound_of_holds hholds
  exact ⟨ref, s₁, _, s₁, hput, hagain, ⟨d, hd, hsum⟩, stored_is_found hagain hsound default⟩

private theorem lost_stays_lost (now : Instant) (hpassword : request.password = none)
    (hholds : s.Holds (Handle.make request.hint (checksum data)) data size false)
    (hlost : s.tree.remove (blobPath s.base (Handle.make request.hint (checksum data))) = .ok tree) :
    ∃ ref, (put now data request).run { s with tree } = (.ok ref, { s with tree }) ∧
      ref.handle = Handle.make request.hint (checksum data) ∧
      ((contains ref.handle).run { s with tree }).1 = .ok false := by
  obtain ⟨p, hp, hchanges⟩ := FileTree.changes_of_remove hlost
  have hdiffers : Differs s p none { s with tree } := ⟨rfl, hchanges⟩
  obtain ⟨d, hd, -, hsum, -⟩ := hholds.described
  have hrecord : DirectoryStore.described { s with tree } (Handle.make request.hint (checksum data)) = .ok d :=
    (hdiffers.described_elsewhere fun q hq => (blob_ne_description hp hq).symm).2 hd
  have hgone : tree.contains (blobPath s.base (Handle.make request.hint (checksum data))) = false :=
    hchanges.contains_here hp
  refine ⟨refOf (Handle.make request.hint (checksum data)) (checksum data) d, ?_, rfl, ?_⟩
  · exact run_put_on_record now hpassword hrecord hsum
  · rw [run_contains, refOf]
    simp only [hgone, Bool.and_false]

/-- A store in which a blob is stored, its bytes are removed and it is stored again: the handle that is given leads to
nothing. -/
theorem lost_bytes_are_not_renewed : ∃ ref renewed s₁ s₂,
    (put default [1] textRequest).run (opened fun _ => default) = (.ok ref, s₁) ∧
      s₁.tree.remove (blobPath s₁.base ref.handle) = .ok s₂.tree ∧
      (put default [1] textRequest).run s₂ = (.ok renewed, s₂) ∧ renewed.handle = ref.handle ∧
      ((contains renewed.handle).run s₂).1 = .ok false := by
  obtain ⟨ref, s₁, hput⟩ := exists_run_put_opened (fun _ => default) default [1] (rfl : textRequest.hint = none)
  obtain ⟨size, hholds⟩ := holds_of_put hput (isSound_opened hput)
  have hhandle := handle_of_put hput
  have hkept : (opened fun _ => default).keptFor [1] textRequest.password = [1] := rfl
  have hunsealed : textRequest.password.isSome = false := rfl
  rw [hkept] at hhandle hholds
  rw [hunsealed, hhandle] at hholds
  obtain ⟨p, tree, hremove, -⟩ := FileTree.exists_remove (keptAt_eq_ok.1 hholds.keptAt)
  obtain ⟨renewed, hagain, hsame, hgone⟩ := lost_stays_lost default rfl hholds hremove
  rw [← hhandle] at hremove hsame
  exact ⟨ref, renewed, s₁, { s₁ with tree }, hput, hremove, hagain, hsame, hgone⟩

end TieredLedger.DirectoryStore
