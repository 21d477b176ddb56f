import TieredLedger.Proofs.Store.Pending

/-! Any number of calls on one blob in any interleaving. Bytes that are removed never come back, and a description comes
back only with a call that had the bytes before. -/
namespace TieredLedger.DirectoryStore

/-- A store and the calls on one of its blobs that have begun, whether they are over or not. -/
structure Scene where
  store : DirectoryStore
  calls : List Pending

inductive Scene.Next (handle : String) : Scene → Scene → Prop
  | begins {s : DirectoryStore} {calls : List Pending} {call : Pending} (hfresh : call.isFresh = true) :
    Next handle ⟨s, calls⟩ ⟨s, calls ++ [call]⟩
  | steps {s s' : DirectoryStore} {call call' : Pending} (before after : List Pending)
    (hstep : call.step handle s = some (call', s')) :
    Next handle ⟨s, before ++ call :: after⟩ ⟨s', before ++ call' :: after⟩

/-- What can come about when calls begin at any time and take their steps in any order. -/
abbrev Scene.Leads (handle : String) : Scene → Scene → Prop := Relation.ReflTransGen (Scene.Next handle)

variable {start s s' : DirectoryStore} {handle : String} {call call' : Pending} {w w' : Scene} {kept : Bytes}
  {size : UInt64} {isSealed : Bool} {now : Instant} {password : Option String}

private theorem Scene.Leads.keeps {P : Scene → Prop} (hnext : ∀ w w', Scene.Next handle w w' → P w → P w')
    (hleads : Scene.Leads handle w w') (h : P w) : P w' := by
  induction hleads with
  | refl => exact h
  | tail _ hlast ih => exact hnext _ _ hlast ih

namespace Pending

def description? : Pending → Option Description
  | fetch _ _ (.reading d) | fetch _ _ (.noting d _) => some d
  | _ => none

private theorem description?_of_isFresh (h : call.isFresh = true) : call.description? = none := by
  unfold isFresh at h
  split at h
  case h_6 => cases h
  all_goals rfl

private theorem description?_of_isDone (h : call.isDone = true) : call.description? = none := by
  unfold isDone at h
  split at h
  case h_6 => cases h
  all_goals rfl

private theorem isNoting_of_description? (h : call.description? = none) : call.isNoting = false := by
  unfold isNoting
  split
  · cases h
  · rfl

end Pending

namespace Stepped

/-- The bytes of a blob do not come back. -/
theorem bytes_stay_gone (h : Stepped handle s call call' s')
    (hgone : s.tree.contains (blobPath s.base handle) = false) :
    s'.tree.contains (blobPath s'.base handle) = false := by
  have helsewhere : ∀ {p content}, Differs s p content s' →
      (∀ q, s.tree.locate (blobPath s.base handle) = .ok q → q ≠ p) →
        s'.tree.contains (blobPath s'.base handle) = false := by
    intro p content hdiffers hplace
    rw [hdiffers.base, hdiffers.tree.contains_elsewhere hplace]
    exact hgone
  cases h with
  | noted hp hdiffers => exact helsewhere hdiffers fun q hq => blob_ne_description hq hp
  | bytes hremoved =>
    rw [hremoved.base]
    exact hremoved.not_contains
  | description hremoved =>
    cases hremoved with
    | absent => exact hgone
    | gone _ hp hdiffers => exact helsewhere hdiffers fun q hq => blob_ne_description hq hp
  | _ => exact hgone

/-- A call on a blob changes no files but its own, if it goes by a description that names them. -/
theorem within (h : Stepped handle s call call' s') (hheld : ∀ d, call.description? = some d → d.handle = handle) :
    Within s handle s' := by
  cases h with
  | noted hp hdiffers =>
    rw [hheld _ rfl] at hp
    exact .of_differs hdiffers (Or.inr hp)
  | bytes hremoved =>
    cases hremoved with
    | absent => exact .refl _ _
    | gone _ hp hdiffers => exact .of_differs hdiffers (Or.inl hp)
  | description hremoved =>
    cases hremoved with
    | absent => exact .refl _ _
    | gone _ hp hdiffers => exact .of_differs hdiffers (Or.inr hp)
  | _ => exact .refl _ _

/-- What is on record under the handle still names it. -/
theorem named (h : Stepped handle s call call' s') (hheld : ∀ d, call.description? = some d → d.handle = handle)
    (hnamed : ∀ d, s.described handle = .ok d → d.handle = handle) :
    ∀ d, s'.described handle = .ok d → d.handle = handle := by
  intro d hd
  cases h with
  | @noted now _ e _ p _ hp hdiffers =>
    have hhandle : e.handle = handle := hheld e rfl
    rw [hhandle] at hp
    rw [hdiffers.described_here hp] at hd
    obtain rfl := Except.ok.inj hd
    exact hhandle
  | bytes hremoved =>
    cases hremoved with
    | absent => exact hnamed d hd
    | gone _ hp hdiffers =>
      exact hnamed d ((hdiffers.described_elsewhere fun q hq => (blob_ne_description hp hq).symm).1 hd)
  | description hremoved =>
    have hgone := hremoved.not_contains
    rw [← hremoved.base] at hgone
    rw [described_of_missing hgone] at hd
    cases hd
  | _ => exact hnamed d hd

private theorem held (h : Stepped handle s call call' s') (hheld : ∀ d, call.description? = some d → d.handle = handle)
    (hnamed : ∀ d, s.described handle = .ok d → d.handle = handle) :
    ∀ d, call'.description? = some d → d.handle = handle := by
  intro d hd
  cases h with
  | described hfound =>
    cases hd
    exact hnamed d hfound
  | unlocked =>
    cases hd
    exact hheld d rfl
  | ended hdone =>
    rw [Pending.description?_of_isDone hdone] at hd
    cases hd
  | _ => cases hd

/-- A removal ends by removing the description. -/
theorem of_deleted {phase : DeletePhase} (h : Stepped handle s (.delete phase) (.delete (.done (.ok ()))) s') :
    phase = .removingDescription ∧ Removed s (descriptionPath s.base handle) s' := by
  cases h with
  | description hremoved => exact ⟨rfl, hremoved⟩
  | ended _ hother => exact absurd rfl hother

/-- Nothing happens any more once both files are gone, unless somebody still notes an access. -/
theorem idle (h : Stepped handle s call call' s') (hbytes : s.tree.contains (blobPath s.base handle) = false)
    (hdescription : s.tree.contains (descriptionPath s.base handle) = false) (hnoting : call.isNoting = false) :
    s' = s ∧ call'.isNoting = false := by
  cases h with
  | described hd =>
    rw [described_of_missing hdescription] at hd
    cases hd
  | unlocked hdata =>
    rw [DirectoryStore.unlocked, keptAt_of_missing hbytes] at hdata
    cases hdata
  | noted => cases hnoting
  | found => exact ⟨rfl, rfl⟩
  | bytes hremoved =>
    cases hremoved with
    | absent => exact ⟨rfl, rfl⟩
    | gone hthere =>
      rw [hbytes] at hthere
      cases hthere
  | description hremoved =>
    cases hremoved with
    | absent => exact ⟨rfl, rfl⟩
    | gone hthere =>
      rw [hdescription] at hthere
      cases hthere
  | ended hdone => exact ⟨rfl, Pending.isNoting_of_description? (Pending.description?_of_isDone hdone)⟩

end Stepped

namespace Scene

/-- What holds while calls on a blob run side by side: only its own files change, its description goes on naming it,
and a removal that has come to the description has left no bytes. -/
structure Sound (start : DirectoryStore) (handle : String) (w : Scene) : Prop where
  within : Within start handle w.store
  named : ∀ d, w.store.described handle = .ok d → d.handle = handle
  held : ∀ call ∈ w.calls, ∀ d, call.description? = some d → d.handle = handle
  removed : Pending.delete .removingDescription ∈ w.calls →
    w.store.tree.contains (blobPath w.store.base handle) = false

private theorem sound_start (h : start.Holds handle kept size isSealed) : Sound start handle ⟨start, []⟩ where
  within := .refl _ _
  named d hd := by
    obtain ⟨e, he, hhandle, -⟩ := h.described
    rw [he] at hd
    obtain rfl := Except.ok.inj hd
    exact hhandle
  held call hcall := by cases hcall
  removed hcall := by cases hcall

private theorem Sound.next (hnext : Next handle w w') (h : Sound start handle w) : Sound start handle w' := by
  cases hnext with
  | begins hfresh =>
    refine ⟨h.within, h.named, ?_, fun hmem => h.removed ?_⟩
    · rw [List.forall_mem_append, List.forall_mem_singleton]
      refine ⟨h.held, fun d hd => ?_⟩
      rw [Pending.description?_of_isFresh hfresh] at hd
      cases hd
    · rcases List.mem_append.1 hmem with hmem | hmem
      · exact hmem
      · rw [← List.mem_singleton.1 hmem] at hfresh
        cases hfresh
  | @steps s s' call call' before after hstep =>
    have hstepped := stepped_of_step hstep
    have hheld := h.held call (List.mem_append_right before List.mem_cons_self)
    refine ⟨h.within.trans (hstepped.within hheld), hstepped.named hheld h.named, ?_, fun hmem => ?_⟩
    · have hothers := h.held
      simp only [List.forall_mem_append, List.forall_mem_cons] at hothers ⊢
      exact ⟨hothers.1, hstepped.held hheld h.named, hothers.2.2⟩
    · rw [List.mem_append, List.mem_cons, or_left_comm] at hmem
      rcases hmem with rfl | hmem
      · cases hstepped with
        | bytes hremoved =>
          rw [hremoved.base]
          exact hremoved.not_contains
        | ended hdone => cases hdone
      · refine hstepped.bytes_stay_gone (h.removed ?_)
        rw [List.mem_append, List.mem_cons, or_left_comm]
        exact Or.inr hmem

/-- Both files are gone, and no call is left that would write one. -/
structure Settled (handle : String) (w : Scene) : Prop where
  bytes : w.store.tree.contains (blobPath w.store.base handle) = false
  description : w.store.tree.contains (descriptionPath w.store.base handle) = false
  nobody : ∀ call ∈ w.calls, call.isNoting = false

private theorem Settled.next (hnext : Next handle w w') (h : Settled handle w) :
    Settled handle w' ∧ w'.store = w.store := by
  cases hnext with
  | begins hfresh =>
    refine ⟨⟨h.bytes, h.description, ?_⟩, rfl⟩
    rw [List.forall_mem_append, List.forall_mem_singleton]
    exact ⟨h.nobody, Pending.isNoting_of_description? (Pending.description?_of_isFresh hfresh)⟩
  | @steps s s' call call' before after hstep =>
    have hothers := h.nobody
    simp only [List.forall_mem_append, List.forall_mem_cons] at hothers
    obtain ⟨rfl, hnoting⟩ := (stepped_of_step hstep).idle h.bytes h.description hothers.2.1
    refine ⟨⟨h.bytes, h.description, ?_⟩, rfl⟩
    simp only [List.forall_mem_append, List.forall_mem_cons]
    exact ⟨hothers.1, hnoting, hothers.2.2⟩

/-- Once a blob is gone and no call would write it, nothing changes any more. -/
theorem Leads.settled (hleads : Leads handle w w') (h : Settled handle w) : Settled handle w' ∧ w'.store = w.store := by
  refine hleads.keeps (P := fun v => Settled handle v ∧ v.store = w.store) (fun v v' hnext hv => ?_) ⟨h, rfl⟩
  obtain ⟨hsettled, hstore⟩ := hv.1.next hnext
  exact ⟨hsettled, hstore.trans hv.2⟩

/-- No call brings removed bytes back. -/
theorem Leads.bytes_stay_gone (hleads : Leads handle w w')
    (hgone : w.store.tree.contains (blobPath w.store.base handle) = false) :
    w'.store.tree.contains (blobPath w'.store.base handle) = false := by
  refine hleads.keeps (P := fun v => v.store.tree.contains (blobPath v.store.base handle) = false)
    (fun v v' hnext hv => ?_) hgone
  cases hnext with
  | begins => exact hv
  | steps before after hstep => exact (stepped_of_step hstep).bytes_stay_gone hv

/-- What holds while calls run side by side holds from a blob in its store on. -/
theorem Leads.sound (hleads : Leads handle ⟨start, []⟩ w) (h : start.Holds handle kept size isSealed) :
    Sound start handle w :=
  hleads.keeps (fun _ _ hnext hw => hw.next hnext) (sound_start h)

/-- A fetch can come as far as having read the description. -/
theorem leads_reading {d : Description} (hd : s.described handle = .ok d) :
    Leads handle ⟨s, []⟩ ⟨s, [.fetch now password (.reading d)]⟩ := by
  have hbegins : Next handle ⟨s, []⟩ ⟨s, [.fetch now password .start]⟩ := .begins rfl
  exact .head hbegins (.single (.steps [] [] (Pending.step_fetch_start hd)))

/-- A removal can come as far as having removed the bytes. -/
theorem leads_removing (call : Pending) (hthere : s.tree.contains (descriptionPath s.base handle) = true)
    (hblob : (removeFile (blobPath s.base handle)).run s = (.ok (), s')) :
    Leads handle ⟨s, [call]⟩ ⟨s', [call, .delete .removingDescription]⟩ := by
  have hbegins : Next handle ⟨s, [call]⟩ ⟨s, [call, .delete .start]⟩ := .begins rfl
  have hfound : Next handle ⟨s, [call, .delete .start]⟩ ⟨s, [call, .delete .removingBytes]⟩ :=
    .steps [call] [] (Pending.step_delete_start hthere)
  exact .head hbegins (.head hfound (.single (.steps [call] [] (Pending.step_delete_bytes hblob))))

end Scene

end TieredLedger.DirectoryStore
