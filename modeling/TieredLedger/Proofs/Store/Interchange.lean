import Mathlib.Data.List.Perm.Basic
import TieredLedger.Proofs.Store.Calls
import TieredLedger.Proofs.Store.Health

/-! Without passwords, a store in an empty directory answers as one in memory does, as long as the file system refuses
nothing. The blobs in memory are those that the directory holds. -/
namespace TieredLedger.OffChainStore

open DirectoryStore (Differs Within blobPath descriptionPath descriptionsPath)

/-- Whether an answer reports that the file system refused to write a file or to list a directory. -/
def reportsRefusal : Except StoreError Answer → Bool
  | .error (.createFile _) | .error (.writeDescription _) | .error (.listDescriptions _) => true
  | .ok (.health h) => !h.healthy
  | _ => false

def Answer.Agrees : Answer → Answer → Prop
  | .ref r, .ref r' =>
    r.handle = r'.handle ∧ r.checksum = r'.checksum ∧ r.size = r'.size ∧ r.compressed = r'.compressed
  | a, b => a = b

/-- Outcomes that are the same: agreeing answers, or one failure. -/
def Agree : Except StoreError Answer → Except StoreError Answer → Prop
  | .ok a, .ok b => a.Agrees b
  | .error e, .error f => e = f
  | _, _ => False

/-- Calls without a password to seal under, about handles that are names. -/
def Call.IsPlain (call : Call) : Prop :=
  (∀ now data request, call = .put now data request → request.password = none) ∧
    ∀ handle, call.handle? = some handle → Handle.IsName handle

/-- The data that calls store. -/
def stored (calls : List Call) : List Bytes :=
  calls.filterMap fun
    | .put _ data _ => some data
    | _ => none

/-- The checksums of some byte strings tell them apart, as those of a digest without collisions among them do. -/
def ToldApart (known : List Bytes) : Prop := ∀ a ∈ known, ∀ b ∈ known, checksum a = checksum b → a = b

instance (known : List Bytes) : Decidable (ToldApart known) := inferInstanceAs (Decidable (∀ a ∈ known, ∀ b ∈ known, _))

/-- The blobs in memory are those that the directory holds, with descriptions in one place. All their data are known. -/
structure Mirrors (p : Place) (known : List Bytes) (m : MemoryStore) (s : DirectoryStore) : Prop where
  writes : m.failWrites = false
  reads : m.failReads = false
  place : s.tree.locate (descriptionsPath s.base) = .ok p
  isDirectory : s.tree.node? p = some .directory
  named : ∀ g b, m.blobs[g]? = some b → Handle.IsName g ∧ g ≠ ""
  held : ∀ g b, m.blobs[g]? = some b → b.data ∈ known ∧ b = MemoryStore.blobFor b.data none ∧
    s.Holds g b.data (UInt64.ofNat b.data.length) false
  absent : ∀ g, m.blobs[g]? = none → s.tree.node? (p ++ [g ++ ".json"]) = none

variable {p q r : Place} {known : List Bytes} {m : MemoryStore} {s s' : DirectoryStore} {g : String} {b : MemoryBlob}
  {content : Option Bytes} {now : Instant} {data : Bytes} {request : StoreRequest} {password : Option String}

namespace Mirrors

private theorem place_of_description (h : Mirrors p known m s) (hg : Handle.IsName g)
    (hq : s.tree.locate (descriptionPath s.base g) = .ok q) : q = p ++ [g ++ ".json"] :=
  DirectoryStore.place_of_description h.place hg hq

private theorem contains_of_absent (h : Mirrors p known m s) (hg : Handle.IsName g) (hnone : m.blobs[g]? = none) :
    s.tree.contains (descriptionPath s.base g) = false := by
  rw [Bool.eq_false_iff]
  intro hcontains
  obtain ⟨q, hq, hnode⟩ := FileTree.contains_eq_true.1 hcontains
  rw [h.place_of_description hg hq, h.absent g hnone] at hnode
  cases hnode

private theorem described_of_absent (h : Mirrors p known m s) (hg : Handle.IsName g) (hnone : m.blobs[g]? = none) :
    s.described g = .error (.unknownHandle g) :=
  DirectoryStore.described_of_missing (h.contains_of_absent hg hnone)

/-- A change of no file of a handle, and of no place for one, keeps the directory a mirror. -/
theorem elsewhere (h : Mirrors p known m s) (hdiffers : Differs s r content s')
    (hblob : ∀ g q, s.tree.locate (blobPath s.base g) = .ok q → q ≠ r)
    (hdescription : ∀ g q, s.tree.locate (descriptionPath s.base g) = .ok q → q ≠ r)
    (hplace : ∀ g : String, p ++ [g ++ ".json"] ≠ r) : Mirrors p known m s' where
  writes := h.writes
  reads := h.reads
  place := by rw [hdiffers.base]; exact hdiffers.locate_eq_ok.2 h.place
  isDirectory := (hdiffers.tree.directories p).2 h.isDirectory
  named := h.named
  held g b hb := by
    obtain ⟨hknown, hplain, hholds⟩ := h.held g b hb
    exact ⟨hknown, hplain, hholds.elsewhere hdiffers (hdescription g) (hblob g)⟩
  absent g hg := by rw [hdiffers.tree.node?, if_neg (hplace g), h.absent g hg]

private theorem node?_of_within (h : Mirrors p known m s) (hg : Handle.IsName g) (hwithin : Within s g s')
    {other : String} (hne : other ≠ g) :
    s'.tree.node? (p ++ [other ++ ".json"]) = s.tree.node? (p ++ [other ++ ".json"]) := by
  apply hwithin.others
  · intro hblob
    have hname := DirectoryStore.getLast?_of_blobPath hblob
    rw [List.getLast?_concat, Option.some.injEq] at hname
    exact FileTree.append_ne_append (by decide) (by decide) (by decide) _ _ hname
  · intro hdescription
    have hplace := h.place_of_description hg hdescription
    rw [List.append_cancel_left_eq, List.cons.injEq, String.append_left_inj] at hplace
    exact hne hplace.1

/-- When both stores change no more than what they have under one handle, it is enough to look at that handle. -/
theorem of_within (h : Mirrors p known m s) (hg : Handle.IsName g) (hwithin : Within s g s') {m' : MemoryStore}
    (hworks : m'.failWrites = m.failWrites ∧ m'.failReads = m.failReads)
    (hothers : ∀ other, other ≠ g → m'.blobs[other]? = m.blobs[other]?)
    (hheld : ∀ b, m'.blobs[g]? = some b → g ≠ "" ∧ b.data ∈ known ∧ b = MemoryStore.blobFor b.data none ∧
      s'.Holds g b.data (UInt64.ofNat b.data.length) false)
    (habsent : m'.blobs[g]? = none → s'.tree.node? (p ++ [g ++ ".json"]) = none) : Mirrors p known m' s' where
  writes := hworks.1.trans h.writes
  reads := hworks.2.trans h.reads
  place := by rw [hwithin.base]; exact hwithin.locate_eq_ok.2 h.place
  isDirectory := (hwithin.directories p).2 h.isDirectory
  named other b hb := by
    by_cases hother : other = g
    · subst hother
      exact ⟨hg, (hheld b hb).1⟩
    · rw [hothers other hother] at hb
      exact h.named other b hb
  held other b hb := by
    by_cases hother : other = g
    · subst hother
      exact (hheld b hb).2
    · rw [hothers other hother] at hb
      obtain ⟨hknown, hplain, hholds⟩ := h.held other b hb
      have hname := (h.named other b hb).1
      exact ⟨hknown, hplain, hholds.of_within hwithin (DirectoryStore.not_aliases hg hname (Ne.symm hother))⟩
  absent other hnone := by
    by_cases hother : other = g
    · subst hother
      exact habsent hnone
    · rw [hothers other hother] at hnone
      rw [h.node?_of_within hg hwithin hother, h.absent other hnone]

private theorem contains_agrees (h : Mirrors p known m s) (hg : Handle.IsName g) :
    (DirectoryStore.contains g).run s = (.ok (m.blobs.contains g), s) := by
  rw [Std.TreeMap.contains_eq_isSome_getElem?]
  cases hfound : m.blobs[g]? with
  | none => rw [DirectoryStore.run_contains, h.contains_of_absent hg hfound, Bool.false_and, Option.isSome_none]
  | some b => rw [(h.held g b hfound).2.2.run_contains, Option.isSome_some]

private theorem size_agrees (h : Mirrors p known m s) (hg : Handle.IsName g) : (DirectoryStore.size g).run s =
    ((m.found g).map fun b => UInt64.ofNat b.data.length, s) := by
  cases hfound : m.blobs[g]? with
  | none =>
    rw [DirectoryStore.run_size, h.described_of_absent hg hfound, MemoryStore.found_of_none hfound]
    rfl
  | some b =>
    rw [(h.held g b hfound).2.2.run_size, MemoryStore.found_of_some hfound]
    rfl

private theorem verify_agrees (h : Mirrors p known m s) (hg : Handle.IsName g) : (DirectoryStore.verify g).run s =
    ((m.found g).map fun b => ⟨b.checksum, checksum b.data⟩, s) := by
  cases hfound : m.blobs[g]? with
  | none =>
    rw [DirectoryStore.run_verify, h.described_of_absent hg hfound, MemoryStore.found_of_none hfound]
    rfl
  | some b =>
    obtain ⟨-, hplain, hholds⟩ := h.held g b hfound
    have hsum : b.checksum = checksum b.data := congrArg MemoryBlob.checksum hplain
    rw [hholds.run_verify, MemoryStore.found_of_some hfound, Except.map, hsum]

private theorem fetch_agrees (h : Mirrors p known m s) (hg : Handle.IsName g) (now : Instant)
    (password : Option String) :
    ∃ s', (DirectoryStore.fetch now g password).run s = (((MemoryStore.fetch g password).run m).1, s') ∧
      Mirrors p known ((MemoryStore.fetch g password).run m).2 s' := by
  rw [MemoryStore.run_fetch_eq h.reads]
  cases hfound : m.blobs[g]? with
  | none =>
    refine ⟨s, ?_, h⟩
    rw [DirectoryStore.run_fetch, h.described_of_absent hg hfound, MemoryStore.found_of_none hfound]
    rfl
  | some b =>
    obtain ⟨hknown, hplain, hholds⟩ := h.held g b hfound
    have hopened : MemoryStore.opened b g password = .ok b.data := by
      rw [hplain]
      rfl
    obtain ⟨s', d, r, hrun, hd, -, hr, hdiffers⟩ :=
      hholds.exists_run_fetch now fun d hd =>
        (DirectoryStore.unlock_of_not_sealed hd : DirectoryStore.unlock d g b.data password = .ok b.data)
    refine ⟨s', ?_, h.of_within hg (.of_differs hdiffers (Or.inr hr)) ⟨rfl, rfl⟩ (fun _ _ => rfl) ?_ ?_⟩
    · rw [hrun, MemoryStore.found_of_some hfound, Except.bind, hopened]
    · intro b' hb'
      rw [hfound] at hb'
      obtain rfl := Option.some.inj hb'
      exact ⟨(h.named g b hfound).2, hknown, hplain, hholds.noted hd hr hdiffers⟩
    · intro hnone
      rw [hfound] at hnone
      cases hnone

private theorem delete_agrees (h : Mirrors p known m s) (hg : Handle.IsName g) :
    ∃ s', (DirectoryStore.delete g).run s = (((MemoryStore.delete g).run m).1, s') ∧
      Mirrors p known ((MemoryStore.delete g).run m).2 s' := by
  rw [MemoryStore.run_delete]
  cases hfound : m.blobs[g]? with
  | none =>
    rw [MemoryStore.found_of_none hfound]
    refine ⟨s, ?_, h⟩
    rw [DirectoryStore.run_delete, if_pos (h.contains_of_absent hg hfound)]
  | some b =>
    rw [MemoryStore.found_of_some hfound]
    obtain ⟨q, r, mid, s', hrun, hq, hblob, hr, hdescription⟩ := (h.held g b hfound).2.2.exists_run_delete
    have hfirst : Within s g mid := .of_differs hblob (Or.inl hq)
    have hwithin : Within s g s' := by
      refine hfirst.trans (.of_differs hdescription (Or.inr ?_))
      rw [hfirst.base]
      exact hfirst.locate_eq_ok.2 hr
    refine ⟨s', hrun, h.of_within hg hwithin ⟨rfl, rfl⟩ ?_ ?_ ?_⟩
    · intro other hother
      rw [Std.TreeMap.getElem?_erase, if_neg (by simpa using Ne.symm hother)]
    · intro b' hb'
      rw [Std.TreeMap.getElem?_erase_self] at hb'
      cases hb'
    · intro _
      have hplace := h.place_of_description hg hr
      rw [← hplace, hdescription.tree.node?, if_pos rfl]
      rfl

private theorem insert (h : Mirrors p known m s) (hg : Handle.IsName g) (hne : g ≠ "") (hdata : data ∈ known)
    (hwithin : Within s g s') (hholds : s'.Holds g data (UInt64.ofNat data.length) false) :
    Mirrors p known { m with blobs := m.blobs.insert g (MemoryStore.blobFor data none) } s' := by
  refine h.of_within hg hwithin ⟨rfl, rfl⟩ ?_ ?_ ?_
  · intro other hother
    rw [Std.TreeMap.getElem?_insert, if_neg (by simpa using Ne.symm hother)]
  · intro b hb
    rw [Std.TreeMap.getElem?_insert_self] at hb
    obtain rfl := Option.some.inj hb
    exact ⟨hne, hdata, rfl, hholds⟩
  · intro hnone
    rw [Std.TreeMap.getElem?_insert_self] at hnone
    cases hnone

private theorem put_agrees (h : Mirrors p known m s) (hpassword : request.password = none) (hdata : data ∈ known)
    (hfree : ToldApart known) {answer : Except StoreError BlobRef}
    (hrun : (DirectoryStore.put now data request).run s = (answer, s'))
    (hworks : reportsRefusal (answer.map .ref) = false) :
    Agree (((MemoryStore.put now data request).run m).1.map .ref) (answer.map .ref) ∧
      Mirrors p known ((MemoryStore.put now data request).run m).2 s' := by
  have hcases := DirectoryStore.put_cases hrun
  have hunsealed : (DirectoryStore.entry now request data data).sealed = false := by
    rw [DirectoryStore.entry, hpassword]
    rfl
  have hg := Handle.isName_make request.hint data
  have hne := Handle.make_ne_empty request.hint (checksum data)
  rw [hpassword, DirectoryStore.keptFor, DirectoryStore.afterDraw] at hcases
  rw [MemoryStore.run_put h.writes, hpassword]
  cases hcases with
  | refused | unlisted => cases hworks
  | @onRecord d hd hsum =>
    cases hfound : m.blobs[Handle.make request.hint (checksum data)]? with
    | none =>
      rw [DirectoryStore.entry, h.described_of_absent hg hfound] at hd
      cases hd
    | some b =>
      obtain ⟨hknown, -, hholds⟩ := h.held _ b hfound
      obtain ⟨e, he, -, hchecksum, hsize, -⟩ := hholds.described
      rw [DirectoryStore.entry, he] at hd
      obtain rfl := Except.ok.inj hd
      obtain rfl : b.data = data := hfree _ hknown _ hdata (hchecksum.symm.trans hsum)
      exact ⟨⟨rfl, rfl, hsize.symm, rfl⟩, h.insert hg hne hdata (.refl _ _) hholds⟩
  | stored hnew hp hkept hq hentered =>
    have hholds := DirectoryStore.holds_of_entered rfl hp hkept hq hentered
    rw [hunsealed] at hholds
    exact ⟨⟨rfl, rfl, rfl, rfl⟩, h.insert hg hne hdata
      ((Within.of_differs hkept (Or.inl hp)).trans (.of_differs hentered (Or.inr hq))) hholds⟩

/-- As many descriptions are counted as there are blobs. -/
theorem count_descriptions (h : Mirrors p known m s) {names : List String}
    (hlists : DirectoryStore.Lists s r q names) : names.length = m.blobs.size := by
  have hplace := hlists.place
  rw [h.place] at hplace
  obtain rfl := Except.ok.inj hplace
  have hinj : Function.Injective fun g : String => g ++ ".json" := fun g g' => (String.append_left_inj _).1
  have hperm : List.Perm names (m.blobs.keys.map fun g => g ++ ".json") := by
    refine (List.perm_ext_iff_of_nodup hlists.nodup (Std.TreeMap.nodup_keys.map hinj)).2 fun name => ?_
    rw [hlists.mem, DirectoryStore.isDescriptionName_iff, List.mem_map]
    constructor
    · rintro ⟨⟨g, -, rfl⟩, hnode⟩
      refine ⟨g, ?_, rfl⟩
      rw [Std.TreeMap.mem_keys, Std.TreeMap.mem_iff_isSome_getElem?, Option.isSome_iff_ne_none]
      intro hnone
      rw [h.absent g hnone] at hnode
      cases hnode
    · rintro ⟨g, hg, rfl⟩
      rw [Std.TreeMap.mem_keys, Std.TreeMap.mem_iff_isSome_getElem?] at hg
      obtain ⟨b, hb⟩ := Option.isSome_iff_exists.1 hg
      obtain ⟨hname, hne⟩ := h.named g b hb
      exact ⟨⟨g, hne, rfl⟩, (hlists.locate_description hname (h.held g b hb).2.2).2⟩
  rw [hperm.length_eq, List.length_map, Std.TreeMap.length_keys]

private theorem health_agrees (h : Mirrors p known m s) {answer : Except StoreError Health}
    (hrun : DirectoryStore.health.run s = (answer, s')) (hworks : reportsRefusal (answer.map .health) = false) :
    answer = .ok (.good m.blobs.size) ∧ Mirrors p known m s' := by
  have hmirrors : Mirrors p known m s' := by
    refine DirectoryStore.of_health (fun t t' q content ht hq hdiffers => ?_) h hrun
    refine ht.elsewhere hdiffers (fun g r hr => DirectoryStore.blob_ne_marker hr hq)
      (fun g r hr => DirectoryStore.description_ne_marker hr hq) ?_
    rintro g rfl
    have hname := DirectoryStore.getLast?_of_marker hq
    rw [List.getLast?_concat, Option.some.injEq] at hname
    exact FileTree.append_ne_append (by decide) (by decide) (by decide) _ _ hname
  refine ⟨?_, hmirrors⟩
  have hgood : ∃ n, answer = .ok (.good n) := by
    rw [DirectoryStore.run_health] at hrun
    split at hrun
    · cases hrun
      cases hworks
    split at hrun
    · cases hrun
      cases hworks
    · cases hrun
      split at hworks
      · cases hworks
      · exact ⟨_, rfl⟩
  obtain ⟨n, rfl⟩ := hgood
  obtain ⟨r, q, names, hlists, rfl⟩ := DirectoryStore.run_health_eq_good.1 (congrArg Prod.fst hrun)
  rw [h.count_descriptions hlists]

end Mirrors

private theorem Agree.refl (x : Except StoreError Answer) : Agree x x := by
  cases x with
  | error e => rfl
  | ok a => cases a <;> simp [Agree, Answer.Agrees]

/-- One call has the same outcome in both stores, and they mirror each other after it. -/
theorem Mirrors.step (h : Mirrors p known m s) {call : Call} (hplain : call.IsPlain)
    (hknown : ∀ a ∈ stored [call], a ∈ known) (hfree : ToldApart known)
    (hworks : reportsRefusal ((directory.run call).run s).1 = false) :
    Agree ((memory.run call).run m).1 ((directory.run call).run s).1 ∧
      Mirrors p known ((memory.run call).run m).2 ((directory.run call).run s).2 := by
  obtain ⟨hpassword, hnamed⟩ := hplain
  cases call with
  | put now data request =>
    rw [run_put] at hworks
    rw [run_put, run_put]
    exact h.put_agrees (hpassword now data request rfl) (hknown data List.mem_cons_self) hfree rfl hworks
  | fetch now g password =>
    obtain ⟨s', hrun, hmirrors⟩ := h.fetch_agrees (hnamed g rfl) now password
    have hrun : (directory.fetch now g password).run s = (((memory.fetch now g password).run m).1, s') := hrun
    rw [run_fetch, run_fetch, hrun]
    exact ⟨.refl _, hmirrors⟩
  | contains g =>
    have hrun : (directory.contains g).run s = (((memory.contains g).run m).1, s) := h.contains_agrees (hnamed g rfl)
    rw [run_contains, run_contains, hrun]
    exact ⟨.refl _, h⟩
  | size g =>
    have hrun : (directory.size g).run s = ((m.found g).map fun b => UInt64.ofNat b.data.length, s) :=
      h.size_agrees (hnamed g rfl)
    rw [run_size, run_size, hrun, run_memory_size]
    exact ⟨.refl _, h⟩
  | delete g =>
    obtain ⟨s', hrun, hmirrors⟩ := h.delete_agrees (hnamed g rfl)
    have hrun : (directory.delete g).run s = (((memory.delete g).run m).1, s') := hrun
    rw [run_delete, run_delete, hrun]
    exact ⟨.refl _, hmirrors⟩
  | verify g =>
    have hrun : (directory.verify g).run s = ((m.found g).map fun b => ⟨b.checksum, checksum b.data⟩, s) :=
      h.verify_agrees (hnamed g rfl)
    have hmemory : (memory.verify g).run m = ((m.found g).map fun b => ⟨b.checksum, checksum b.data⟩, m) :=
      MemoryStore.run_verify
    rw [run_verify, run_verify, hrun, hmemory]
    exact ⟨.refl _, h⟩
  | health =>
    rw [run_health] at hworks
    obtain ⟨hanswer, hmirrors⟩ := h.health_agrees (Prod.mk.eta (p := directory.health.run s)).symm hworks
    have hmemory : memory.health.run m = (.ok (.good m.blobs.size), m) := rfl
    rw [run_health, run_health, hanswer, hmemory]
    exact ⟨.refl _, hmirrors⟩

end TieredLedger.OffChainStore
