import Mathlib.Logic.Relation
import TieredLedger.Proofs.Store.Stored
import TieredLedger.Store.Pending

/-! What a step of a call on a blob can do. The steps of a call that has the store to itself come to the whole call. -/
namespace TieredLedger.DirectoryStore

variable {s s' : DirectoryStore} {handle : String} {now : Instant} {password : Option String} {d : Description}
  {data : Bytes}

section Phases

variable {α β : Type} {act : StoreM DirectoryStore α} {next : α → β} {failed : StoreError → β}

private theorem goOn_of_ok {a : α} (h : act.run s = (.ok a, s')) : goOn act next failed s = (next a, s') := by
  rw [goOn, h]

private theorem goOn_of_error {e : StoreError} (h : act.run s = (.error e, s')) :
    goOn act next failed s = (failed e, s') := by
  rw [goOn, h]

def unlocked (s : DirectoryStore) (handle : String) (d : Description) (password : Option String) :
    Except StoreError Bytes := do
  unlock d handle (← s.keptAt handle) password

private theorem run_ofExcept {α : Type} (answer : Except StoreError α) :
    (StoreM.ofExcept answer).run s = (answer, s) := by
  cases answer <;> rfl

private theorem step_start : FetchPhase.start.step handle now password s =
    some ((match s.described handle with
      | .ok d => .reading d
      | .error e => .done (.error e)), s) := by
  rw [FetchPhase.step, goOn, run_describe]
  cases s.described handle <;> rfl

private theorem step_reading : (FetchPhase.reading d).step handle now password s =
    some ((match s.unlocked handle d password with
      | .ok data => .noting d data
      | .error e => .done (.error e)), s) := by
  rw [FetchPhase.step, goOn, StoreM.run_bind, run_readBlob, unlocked]
  cases s.keptAt handle with
  | error e => rfl
  | ok kept =>
    simp only [run_ofExcept, bind, Except.bind]
    cases unlock d handle kept password <;> rfl

private theorem step_noting : (FetchPhase.noting d data).step handle now password s =
    match s.tree.write (descriptionPath s.base d.handle) (Bytes.ofText (noted d now).write) with
    | .ok tree => some (.done (.ok data), { s with tree })
    | .error cause => some (.done (.error (.writeDescription cause)), s) := by
  rw [FetchPhase.step, goOn, run_saveDescription, noted]
  dsimp only
  cases s.tree.write (descriptionPath s.base d.handle) _ <;> rfl

private theorem run_fetch_of_unlocked (hd : s.described handle = .ok d) : (fetch now handle password).run s =
    match s.unlocked handle d password with
    | .error e => (.error e, s)
    | .ok data =>
      match s.tree.write (descriptionPath s.base d.handle) (Bytes.ofText (noted d now).write) with
      | .ok tree => (.ok data, { s with tree })
      | .error cause => (.error (.writeDescription cause), s) := by
  rw [run_fetch, hd, unlocked]
  cases s.keptAt handle <;> rfl

end Phases

namespace Pending

def StepsAlone (handle : String) (a b : Pending × DirectoryStore) : Prop := a.1.step handle a.2 = some b

/-- A fetch first reads the description. -/
theorem step_fetch_start (hd : s.described handle = .ok d) :
    (fetch now password .start).step handle s = some (fetch now password (.reading d), s) := by
  rw [step, step_start, hd]
  rfl

/-- A fetch that can open the bytes is left with noting the access. -/
theorem step_fetch_reading (hdata : s.unlocked handle d password = .ok data) :
    (fetch now password (.reading d)).step handle s = some (fetch now password (.noting d data), s) := by
  rw [step, step_reading, hdata]
  rfl

/-- A fetch that cannot open the bytes is over. -/
theorem step_fetch_reading_error {e : StoreError} (he : s.unlocked handle d password = .error e) :
    (fetch now password (.reading d)).step handle s = some (fetch now password (.done (.error e)), s) := by
  rw [step, step_reading, he]
  rfl

/-- A fetch that notes the access is over. -/
theorem step_fetch_noting {tree : FileTree}
    (hwrite : s.tree.write (descriptionPath s.base d.handle) (Bytes.ofText (noted d now).write) = .ok tree) :
    (fetch now password (.noting d data)).step handle s =
      some (fetch now password (.done (.ok data)), { s with tree }) := by
  rw [step, step_noting, hwrite]
  rfl

/-- A removal begins if there is a description. -/
theorem step_delete_start (hthere : s.tree.contains (descriptionPath s.base handle) = true) :
    (delete .start).step handle s = some (delete .removingBytes, s) := by
  rw [step, DeletePhase.step, if_pos hthere]
  rfl

/-- A removal goes on to the description once the bytes are removed. -/
theorem step_delete_bytes (hrun : (removeFile (blobPath s.base handle)).run s = (.ok (), s')) :
    (delete .removingBytes).step handle s = some (delete .removingDescription, s') := by
  rw [step, DeletePhase.step, goOn_of_ok hrun]
  rfl

/-- A removal is over once the description is removed. -/
theorem step_delete_description (hrun : (removeFile (descriptionPath s.base handle)).run s = (.ok (), s')) :
    (delete .removingDescription).step handle s = some (delete (.done (.ok ())), s') := by
  rw [step, DeletePhase.step, goOn_of_ok hrun]
  rfl

private theorem fetches_alone : Relation.ReflTransGen (StepsAlone handle) (fetch now password .start, s)
    ((fetch now password .start).runAlone handle s) := by
  cases hd : s.described handle with
  | error e =>
    apply Relation.ReflTransGen.single
    rw [StepsAlone, step, step_start, hd, runAlone, run_fetch, hd]
    rfl
  | ok d =>
    refine .head (step_fetch_start hd) ?_
    rw [runAlone, run_fetch_of_unlocked hd]
    cases hdata : s.unlocked handle d password with
    | error e => exact .single (step_fetch_reading_error hdata)
    | ok data =>
      refine .head (step_fetch_reading hdata) (.single ?_)
      rw [StepsAlone, step, step_noting]
      dsimp only
      cases s.tree.write (descriptionPath s.base d.handle) _ <;> rfl

private theorem deletes_alone : Relation.ReflTransGen (StepsAlone handle) (delete .start, s)
    ((delete .start).runAlone handle s) := by
  rw [runAlone, run_delete]
  cases hthere : s.tree.contains (descriptionPath s.base handle) with
  | false =>
    apply Relation.ReflTransGen.single
    rw [StepsAlone, step, DeletePhase.step, hthere]
    rfl
  | true =>
    refine .head (step_delete_start hthere) ?_
    rw [if_neg Bool.true_eq_false_eq_False]
    rcases hblob : (removeFile (blobPath s.base handle)).run s with ⟨e | _, mid⟩
    · apply Relation.ReflTransGen.single
      rw [StepsAlone, step, DeletePhase.step, goOn_of_error hblob]
      rfl
    · refine .head (step_delete_bytes hblob) (.single ?_)
      rw [StepsAlone, step, DeletePhase.step, (removed_of_removeFile hblob).base]
      dsimp only
      rcases hdescription : (removeFile (descriptionPath s.base handle)).run mid with ⟨e | _, last⟩
      · rw [goOn_of_error hdescription]
        rfl
      · rw [goOn_of_ok hdescription]
        rfl

/-- Steps without interruption come to what the whole call does. -/
theorem runAlone_of_isFresh {call : Pending} (hfresh : call.isFresh = true) :
    Relation.ReflTransGen (StepsAlone handle) (call, s) (call.runAlone handle s) := by
  unfold isFresh at hfresh
  split at hfresh
  · exact fetches_alone
  · exact deletes_alone
  · exact .single rfl
  · exact .single rfl
  · exact .single rfl
  · cases hfresh

end Pending

/-- What a step of a call can do, and the store after it. A call that ends otherwise than by removing or noting leaves
the store as it is. -/
inductive Stepped (handle : String) (s : DirectoryStore) : Pending → Pending → DirectoryStore → Prop
  | described {now : Instant} {password : Option String} {d : Description} (hd : s.described handle = .ok d) :
    Stepped handle s (.fetch now password .start) (.fetch now password (.reading d)) s
  | unlocked {now : Instant} {password : Option String} {d : Description} {data : Bytes}
    (hdata : s.unlocked handle d password = .ok data) :
    Stepped handle s (.fetch now password (.reading d)) (.fetch now password (.noting d data)) s
  | noted {now : Instant} {password : Option String} {d : Description} {data : Bytes} {p : Place} {s' : DirectoryStore}
    (hp : s.tree.locate (descriptionPath s.base d.handle) = .ok p)
    (hdiffers : Differs s p (some (Bytes.ofText (noted d now).write)) s') :
    Stepped handle s (.fetch now password (.noting d data)) (.fetch now password (.done (.ok data))) s'
  | found (hthere : s.tree.contains (descriptionPath s.base handle) = true) :
    Stepped handle s (.delete .start) (.delete .removingBytes) s
  | bytes {s' : DirectoryStore} (hremoved : Removed s (blobPath s.base handle) s') :
    Stepped handle s (.delete .removingBytes) (.delete .removingDescription) s'
  | description {s' : DirectoryStore} (hremoved : Removed s (descriptionPath s.base handle) s') :
    Stepped handle s (.delete .removingDescription) (.delete (.done (.ok ()))) s'
  | ended {call call' : Pending} (hdone : call'.isDone = true) (hother : call' ≠ .delete (.done (.ok ()))) :
    Stepped handle s call call' s

variable {call call' : Pending}

private theorem stepped_of_fetch {phase phase' : FetchPhase}
    (hstep : phase.step handle now password s = some (phase', s')) :
    Stepped handle s (.fetch now password phase) (.fetch now password phase') s' := by
  cases phase with
  | start =>
    rw [step_start] at hstep
    cases hd : s.described handle with
    | error e =>
      rw [hd] at hstep
      cases hstep
      exact .ended rfl (fun h => by cases h)
    | ok d =>
      rw [hd] at hstep
      cases hstep
      exact .described hd
  | reading d =>
    rw [step_reading] at hstep
    cases hdata : s.unlocked handle d password with
    | error e =>
      rw [hdata] at hstep
      cases hstep
      exact .ended rfl (fun h => by cases h)
    | ok data =>
      rw [hdata] at hstep
      cases hstep
      exact .unlocked hdata
  | noting d data =>
    rw [step_noting] at hstep
    split at hstep
    · next tree hwrite =>
      cases hstep
      obtain ⟨p, hp, hchanges⟩ := FileTree.changes_of_write hwrite
      exact .noted hp ⟨rfl, hchanges⟩
    · cases hstep
      exact .ended rfl (fun h => by cases h)
  | done answer => cases hstep

private theorem stepped_of_delete {phase phase' : DeletePhase} (hstep : phase.step handle s = some (phase', s')) :
    Stepped handle s (.delete phase) (.delete phase') s' := by
  cases phase with
  | start =>
    rw [DeletePhase.step] at hstep
    split at hstep
    · next hthere =>
      cases hstep
      exact .found hthere
    · cases hstep
      exact .ended rfl (fun h => by cases h)
  | removingBytes =>
    rw [DeletePhase.step] at hstep
    rcases hrun : (removeFile (blobPath s.base handle)).run s with ⟨e | _, mid⟩
    · rw [goOn_of_error hrun] at hstep
      cases hstep
      rw [eq_of_removeFile_error hrun]
      exact .ended rfl (fun h => by cases h)
    · rw [goOn_of_ok hrun] at hstep
      cases hstep
      exact .bytes (removed_of_removeFile hrun)
  | removingDescription =>
    rw [DeletePhase.step] at hstep
    rcases hrun : (removeFile (descriptionPath s.base handle)).run s with ⟨e | _, last⟩
    · rw [goOn_of_error hrun] at hstep
      cases hstep
      rw [eq_of_removeFile_error hrun]
      exact .ended rfl (fun h => by cases h)
    · rw [goOn_of_ok hrun] at hstep
      cases hstep
      exact .description (removed_of_removeFile hrun)
  | done answer => cases hstep

/-- Every step of a call is one of those told of. -/
theorem stepped_of_step (hstep : call.step handle s = some (call', s')) : Stepped handle s call call' s' := by
  unfold Pending.step at hstep
  split at hstep
  · obtain ⟨⟨phase', after⟩, hphase, hpair⟩ := Option.map_eq_some_iff.1 hstep
    cases hpair
    exact stepped_of_fetch hphase
  · obtain ⟨⟨phase', after⟩, hphase, hpair⟩ := Option.map_eq_some_iff.1 hstep
    cases hpair
    exact stepped_of_delete hphase
  · rw [run_contains] at hstep
    cases hstep
    exact .ended rfl (fun h => by cases h)
  · rw [run_size] at hstep
    cases hstep
    exact .ended rfl (fun h => by cases h)
  · rw [run_describe] at hstep
    cases hstep
    exact .ended rfl (fun h => by cases h)
  · cases hstep
  · cases hstep
  · cases hstep

end TieredLedger.DirectoryStore
