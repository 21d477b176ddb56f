import TieredLedger.Proofs.Store.Health
import TieredLedger.Proofs.Store.Overlap
import TieredLedger.Proofs.Store.Renewal

/-! Removing a blob while other calls on it are under way. Its bytes are gone for good. Its description comes back if
somebody who had the bytes by then notes the access afterwards, and else it is gone as well. -/
namespace TieredLedger.DirectoryStore

variable {start s s' last : DirectoryStore} {handle : String} {calls before after : List Pending} {kept data : Bytes}
  {size : UInt64} {isSealed : Bool} {w : Scene} {password : Option String}

/-- Nothing is left of a blob. -/
structure IsGone (handle : String) (s : DirectoryStore) : Prop where
  bytes : s.tree.contains (blobPath s.base handle) = false
  description : s.tree.contains (descriptionPath s.base handle) = false
  contains : (DirectoryStore.contains handle).run s = (.ok false, s)
  describe : (DirectoryStore.describe handle).run s = (.error (.unknownHandle handle), s)
  size : (DirectoryStore.size handle).run s = (.error (.unknownHandle handle), s)

private theorem Scene.Settled.isGone (h : Scene.Settled handle w) : IsGone handle w.store where
  bytes := h.bytes
  description := h.description
  contains := by rw [run_contains, h.bytes, Bool.and_false]
  describe := by rw [run_describe, described_of_missing h.description]
  size := by
    rw [run_size, described_of_missing h.description]
    rfl

/-- Somebody who has the bytes by the time that they are removed brings the description back. -/
theorem late_note_restores (hholds : start.Holds handle kept size isSealed) (now : Instant)
    (hunlock : ∀ d : Description, d.sealed = isSealed → unlock d handle kept password = .ok data) :
    ∃ d last, Scene.Leads handle ⟨start, []⟩
        ⟨last, [.fetch now password (.done (.ok data)), .delete (.done (.ok ()))]⟩ ∧
      last.described handle = .ok (noted d now).settled ∧ d.size = size ∧
      last.tree.contains (blobPath last.base handle) = false := by
  obtain ⟨d, hd, hhandle, -, hsize, hsealed⟩ := hholds.described
  have hdata : start.unlocked handle d password = .ok data := by
    rw [unlocked, hholds.keptAt]
    exact hunlock d hsealed
  obtain ⟨p, q, mid, s', hblob, hdescription, hp, hmid, hq, hs'⟩ := hholds.exists_removals
  have hplace : s'.tree.locate (descriptionPath s'.base d.handle) = .ok q := by
    rw [hhandle, hs'.base, hmid.base, hs'.locate_eq_ok, hmid.locate_eq_ok]
    exact hq
  have hfree : s'.tree.node? q ≠ some .directory := by
    rw [hs'.tree.node?, if_pos rfl]
    exact fun h => by cases h
  obtain ⟨tree, hwrite, hchanges⟩ := FileTree.exists_write hplace hfree (Bytes.ofText (noted d now).write)
  have hlast : Differs s' q (some (Bytes.ofText (noted d now).write)) { s' with tree } := ⟨rfl, hchanges⟩
  rw [← hmid.base] at hdescription
  have hread : Scene.Next handle ⟨start, [.fetch now password (.reading d)]⟩
      ⟨start, [.fetch now password (.noting d data)]⟩ := .steps [] [] (Pending.step_fetch_reading hdata)
  have hfirst := ((Scene.leads_reading hd).tail hread).trans (Scene.leads_removing _ hholds.contains_description hblob)
  have hends : Scene.Next handle ⟨mid, [.fetch now password (.noting d data), .delete .removingDescription]⟩
      ⟨s', [.fetch now password (.noting d data), .delete (.done (.ok ()))]⟩ :=
    .steps [_] [] (Pending.step_delete_description hdescription)
  have hnotes : Scene.Next handle ⟨s', [.fetch now password (.noting d data), .delete (.done (.ok ()))]⟩
      ⟨{ s' with tree }, [.fetch now password (.done (.ok data)), .delete (.done (.ok ()))]⟩ :=
    .steps [] [_] (Pending.step_fetch_noting hwrite)
  have hsecond : Scene.Leads handle _ _ := (Relation.ReflTransGen.single hends).tail hnotes
  refine ⟨d, { s' with tree }, hfirst.trans hsecond, ?_, hsize, hsecond.bytes_stay_gone ?_⟩
  · rw [hhandle] at hplace
    exact hlast.described_here hplace
  · rw [hmid.base]
    exact hmid.tree.contains_here hp

private theorem stored_when_opened : ∃ ref start,
    (put default [1] textRequest).run (opened fun _ => default) = (.ok ref, start) ∧ Handle.IsName ref.handle ∧
      ref.handle ≠ "" ∧ start.Holds ref.handle [1] 1 false ∧
      start.Lists ["s", ".health_check"] ["s", "meta"] [ref.handle ++ ".json"] := by
  obtain ⟨ref, start, hput⟩ := exists_run_put_opened (fun _ => default) default [1] (rfl : textRequest.hint = none)
  have hhandle := handle_of_put hput
  have hname := isName_of_put hput
  have hne : ref.handle ≠ "" := by
    rw [hhandle]
    exact Handle.make_ne_empty _ _
  have hempty := isEmpty_opened fun _ => default
  have hholds := holds_of_new hput fun d hd => absurd hd (hempty.described_ne_ok hname d)
  refine ⟨ref, start, hput, hname, hne, hholds, ?_⟩
  have hwithin : Within (opened fun _ => default) ref.handle start := by
    rw [hhandle]
    exact within_of_put hput
  have hopened := lists_opened fun _ => default
  obtain ⟨d, hd, -⟩ := hholds.described
  obtain ⟨r, bytes, hr, -⟩ := exists_place_of_described hd
  rw [hwithin.base, hwithin.locate_eq_ok] at hr
  obtain rfl := place_of_description hopened.place hname hr
  have hlists := hopened.of_within hne hr hwithin
  rw [hholds.contains_description, if_pos rfl, List.insert_nil] at hlists
  exact hlists

/-- A blob was stored, any calls on it run side by side, and one that removes it ends well. From then on its bytes are
gone for good. If nobody had the bytes at that moment and was yet to note the access, nothing at all is left of it, and a
health check counts one blob less than at the start. -/
theorem removed_for_good {phase : DeletePhase} (hname : Handle.IsName handle) (hne : handle ≠ "")
    (hholds : start.Holds handle kept size isSealed)
    (hbefore : Scene.Leads handle ⟨start, []⟩ ⟨s, before ++ .delete phase :: after⟩)
    (hlast : (Pending.delete phase).step handle s = some (.delete (.done (.ok ())), s'))
    (hafter : Scene.Leads handle ⟨s', before ++ .delete (.done (.ok ())) :: after⟩ ⟨last, calls⟩) :
    last.tree.contains (blobPath last.base handle) = false ∧ (contains handle).run last = (.ok false, last) ∧
      ((∀ call ∈ before ++ after, call.isNoting = false) → IsGone handle last ∧
        ∀ n, (health.run start).1 = .ok (.good n) → ∃ m, (health.run last).1 = .ok (.good m) ∧ n = m + 1) := by
  have hsound := hbefore.sound hholds
  have hstepped := stepped_of_step hlast
  obtain ⟨rfl, hremoved⟩ := hstepped.of_deleted
  have hwithin : Within start handle s' := hsound.within.trans (hstepped.within fun d hd => by cases hd)
  have hbytes : s'.tree.contains (blobPath s'.base handle) = false :=
    hstepped.bytes_stay_gone (hsound.removed (List.mem_append_right before List.mem_cons_self))
  have hdescription : s'.tree.contains (descriptionPath s'.base handle) = false := by
    rw [hremoved.base]
    exact hremoved.not_contains
  have hgone := hafter.bytes_stay_gone hbytes
  refine ⟨hgone, by rw [run_contains, hgone, Bool.and_false], fun hnobody => ?_⟩
  have hsettled : Scene.Settled handle ⟨s', before ++ .delete (.done (.ok ())) :: after⟩ := by
    refine ⟨hbytes, hdescription, ?_⟩
    rw [List.forall_mem_append] at hnobody
    rw [List.forall_mem_append, List.forall_mem_cons]
    exact ⟨hnobody.1, rfl, hnobody.2⟩
  obtain ⟨hleft, rfl⟩ := hafter.settled hsettled
  refine ⟨hleft.isGone, fun n hcount => ?_⟩
  obtain ⟨p, q, names, hlists, rfl⟩ := run_health_eq_good.1 hcount
  have hmem := hlists.mem_description hname hne hholds
  have hrest := hlists.of_within hne (hlists.locate_description hname hholds).1 hwithin
  rw [hdescription, if_neg Bool.false_ne_true] at hrest
  refine ⟨_, run_health_eq_good.2 ⟨p, q, _, hrest, rfl⟩, ?_⟩
  rw [List.length_erase_of_mem hmem, Nat.sub_add_cancel (List.length_pos_of_mem hmem)]

/-- Somebody who has read the description only, when the blob is removed, finds no bytes and leaves it removed. -/
theorem removed_for_good_from_reader : ∃ ref start d s s' last,
    (put default [1] textRequest).run (opened fun _ => default) = (.ok ref, start) ∧
      Scene.Leads ref.handle ⟨start, []⟩ ⟨s, [.fetch default none (.reading d), .delete .removingDescription]⟩ ∧
      (Pending.delete .removingDescription).step ref.handle s = some (.delete (.done (.ok ())), s') ∧
      Scene.Leads ref.handle ⟨s', [.fetch default none (.reading d), .delete (.done (.ok ()))]⟩
        ⟨last, [.fetch default none (.done (.error (.unknownHandle ref.handle))), .delete (.done (.ok ()))]⟩ ∧
      (health.run start).1 = .ok (.good 1) ∧ IsGone ref.handle last ∧ (health.run last).1 = .ok (.good 0) := by
  obtain ⟨ref, start, hput, hname, hne, hholds, hlists⟩ := stored_when_opened
  obtain ⟨d, hd, -⟩ := hholds.described
  obtain ⟨p, q, mid, s', hblob, hdescription, hp, hmid, hq, hs'⟩ := hholds.exists_removals
  rw [← hmid.base] at hdescription
  have hbefore : Scene.Leads ref.handle ⟨start, []⟩
      ⟨mid, [.fetch default none (.reading d)] ++ .delete .removingDescription :: []⟩ :=
    (Scene.leads_reading hd).trans (Scene.leads_removing _ hholds.contains_description hblob)
  have hlast := Pending.step_delete_description hdescription
  have hgone : s'.tree.contains (blobPath s'.base ref.handle) = false := by
    refine (stepped_of_step hlast).bytes_stay_gone ?_
    rw [hmid.base]
    exact hmid.tree.contains_here hp
  have hmissing : s'.unlocked ref.handle d none = .error (.unknownHandle ref.handle) := by
    rw [unlocked, keptAt_of_missing hgone]
    rfl
  have hafter : Scene.Leads ref.handle ⟨s', [.fetch default none (.reading d)] ++ .delete (.done (.ok ())) :: []⟩
      ⟨s', [.fetch default none (.done (.error (.unknownHandle ref.handle))), .delete (.done (.ok ()))]⟩ :=
    .single (.steps [] [_] (Pending.step_fetch_reading_error hmissing))
  have hstart : (health.run start).1 = .ok (.good 1) := run_health_eq_good.2 ⟨_, _, _, hlists, rfl⟩
  obtain ⟨-, -, hfinal⟩ := removed_for_good hname hne hholds hbefore hlast hafter
  obtain ⟨hleft, hcount⟩ := hfinal (by simp [Pending.isNoting])
  obtain ⟨m, hm, hone⟩ := hcount 1 hstart
  obtain rfl : m = 0 := by omega
  exact ⟨ref, start, d, mid, s', s', hput, hbefore, hlast, hafter, hstart, hleft, hm⟩

/-- Once a removal has ended well and all calls are over the description is there, without the bytes that it is about. -/
theorem description_outlives_removal : ∃ ref start last calls,
    (put default [1] textRequest).run (opened fun _ => default) = (.ok ref, start) ∧
      Scene.Leads ref.handle ⟨start, []⟩ ⟨last, calls⟩ ∧ (∀ call ∈ calls, call.isDone = true) ∧
      .delete (.done (.ok ())) ∈ calls ∧ last.tree.contains (descriptionPath last.base ref.handle) = true ∧
      (∃ d, (describe ref.handle).run last = (.ok d, last)) ∧
      (DirectoryStore.size ref.handle).run last = (.ok 1, last) ∧
      (contains ref.handle).run last = (.ok false, last) ∧ (health.run last).1 = .ok (.good 1) := by
  obtain ⟨ref, start, hput, hname, hne, hholds, hlists⟩ := stored_when_opened
  have hunlock : ∀ d : Description, d.sealed = false → unlock d ref.handle [1] none = .ok [1] :=
    fun d hd => unlock_of_not_sealed hd
  obtain ⟨d, last, hleads, hd, hsize, hgone⟩ := late_note_restores hholds default hunlock
  have hwithin := (hleads.sound hholds).within
  obtain ⟨bytes, hread, -⟩ := described_eq_ok.1 hd
  have hthere := FileTree.contains_of_read hread
  refine ⟨ref, start, last, _, hput, hleads, ?_, ?_, hthere, ⟨_, by rw [run_describe, hd]⟩, ?_, ?_, ?_⟩
  · simp [Pending.isDone]
  · simp
  · rw [run_size, hd, ← hsize]
    rfl
  · rw [run_contains, hgone, Bool.and_false]
  · have hlast := hlists.of_within hne (hlists.locate_description hname hholds).1 hwithin
    rw [hthere, if_pos rfl, List.insert_of_mem (List.mem_singleton_self _)] at hlast
    exact run_health_eq_good.2 ⟨_, _, _, hlast, rfl⟩

end TieredLedger.DirectoryStore
