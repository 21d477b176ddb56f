import TieredLedger.Proofs.Store.Calls
import TieredLedger.Proofs.Store.Opening

/-! A blob that is sealed in a directory stays sealed and can be got with its password, whatever else the store is asked,
as long as its handle is not removed and the bytes that are written are told by the first digits of their checksums. -/
namespace TieredLedger.OffChainStore

open DirectoryStore (Differs Within Aliases blobPath descriptionPath)

variable {start s s' : DirectoryStore} {p q : Place} {g handle : String} {d : Description} {token : Bytes}
  {size : UInt64} {isSealed : Bool} {content : Option Bytes} {known more : List Bytes} {named : String → Prop}

def Call.kept (s : DirectoryStore) : Call → List Bytes
  | .put _ data request => [s.keptFor data request.password]
  | _ => []

/-- The bytes that calls of a store in a directory keep, in their order. -/
def written (s : DirectoryStore) : List Call → List Bytes
  | [] => []
  | call :: rest => call.kept s ++ written ((directory.run call).run s).2 rest

/-- The handles that calls are about. -/
def handlesOf (calls : List Call) : List String := calls.filterMap Call.handle?

private theorem forall_mem_handlesOf_cons {call : Call} {calls : List Call} :
    (∀ g ∈ handlesOf (call :: calls), named g) ↔
      (∀ g, call.handle? = some g → named g) ∧ ∀ g ∈ handlesOf calls, named g := by
  cases h : call.handle? with
  | none => simp [handlesOf, h]
  | some g => simp [handlesOf, h]

private theorem run_snd_of_reading {call : Call} (h : call = .contains g ∨ call = .size g ∨ call = .verify g) :
    ((directory.run call).run s).2 = s := by
  rcases h with rfl | rfl | rfl
  · have hrun : (directory.contains g).run s = _ := DirectoryStore.run_contains
    rw [run_contains, hrun]
  · have hrun : (directory.size g).run s = _ := DirectoryStore.run_size
    rw [run_size, hrun]
  · have hrun : (directory.verify g).run s = _ := DirectoryStore.run_verify
    rw [run_verify, hrun]

/-- A store that only its own calls have touched, with handles that may be asked for: what is described under one of them
is described under the handle that the description names, and was made for bytes that the store wrote. -/
structure Owns (start : DirectoryStore) (named : String → Prop) (known : List Bytes) (s : DirectoryStore) : Prop where
  base : s.base = start.base
  directories : ∀ q, s.tree.node? q = some .directory ↔ start.tree.node? q = some .directory
  place : ∀ g d, named g → s.described g = .ok d → ∀ p, s.tree.locate (descriptionPath s.base g) = .ok p →
    s.tree.locate (descriptionPath s.base d.handle) = .ok p
  origin : ∀ g d, named g → s.described g = .ok d → ∃ k ∈ known, d.checksum = checksum k

namespace Owns

private theorem aliases_iff (h : Owns start named known s) {g handle : String} :
    s.Aliases g handle ↔ start.Aliases g handle := by
  have hlocate : ∀ path q, s.tree.locate path = .ok q ↔ start.tree.locate path = .ok q := fun path q =>
    ⟨FileTree.locate_of_directories fun r => (h.directories r).symm, FileTree.locate_of_directories h.directories⟩
  simp only [Aliases, h.base, hlocate]

private theorem mono (h : Owns start named known s) (hsub : ∀ k ∈ known, k ∈ more) : Owns start named more s where
  base := h.base
  directories := h.directories
  place := h.place
  origin g d hg hd := by
    obtain ⟨k, hk, hsum⟩ := h.origin g d hg hd
    exact ⟨k, hsub k hk, hsum⟩

private theorem afterDraw (h : Owns start named known s) (password : Option String) :
    Owns start named known (s.afterDraw password) where
  base := (DirectoryStore.base_afterDraw password).trans h.base
  directories := by rw [DirectoryStore.tree_afterDraw]; exact h.directories
  place := by
    rw [DirectoryStore.tree_afterDraw, DirectoryStore.base_afterDraw]
    intro g d hg hd
    rw [DirectoryStore.described_afterDraw] at hd
    exact h.place g d hg hd
  origin g d hg hd := by
    rw [DirectoryStore.described_afterDraw] at hd
    exact h.origin g d hg hd

/-- A change of one file is fine if it puts a description only where that belongs. -/
theorem of_differs (h : Owns start named known s) (hdiffers : Differs s p content s')
    (hcontent : ∀ g bytes d, s.tree.locate (descriptionPath s.base g) = .ok p → content = some bytes →
      DirectoryStore.descriptionIn? bytes = some d →
        s.tree.locate (descriptionPath s.base d.handle) = .ok p ∧ ∃ k ∈ known, d.checksum = checksum k) :
    Owns start named known s' := by
  have hcases : ∀ g d, s'.described g = .ok d → (s.described g = .ok d ∨
      s.tree.locate (descriptionPath s.base g) = .ok p ∧ s.tree.locate (descriptionPath s.base d.handle) = .ok p ∧
        ∃ k ∈ known, d.checksum = checksum k) := by
    intro g d hd
    obtain ⟨bytes, hread, hin⟩ := DirectoryStore.described_eq_ok.1 hd
    rw [hdiffers.base] at hread
    obtain ⟨q, hq, hnode⟩ := FileTree.read_eq_ok.1 hread
    have hlocate := hdiffers.locate_eq_ok.1 hq
    rw [hdiffers.tree.node?] at hnode
    split at hnode
    · next hplace =>
      subst hplace
      obtain ⟨bytes', hbytes, hfile⟩ := Option.map_eq_some_iff.1 hnode
      rw [FileNode.file.inj hfile] at hbytes
      exact Or.inr ⟨hlocate, hcontent g bytes d hlocate hbytes hin⟩
    · exact Or.inl (DirectoryStore.described_eq_ok.2 ⟨bytes, FileTree.read_eq_ok.2 ⟨q, hlocate, hnode⟩, hin⟩)
  refine ⟨hdiffers.base.trans h.base, fun q => (hdiffers.tree.directories q).trans (h.directories q), ?_, ?_⟩
  · intro g d hg hd q hq
    rw [hdiffers.base] at hq ⊢
    rw [hdiffers.locate_eq_ok] at hq ⊢
    rcases hcases g d hd with hold | ⟨hp, hplace, -⟩
    · exact h.place g d hg hold q hq
    · rw [hp] at hq
      rw [← Except.ok.inj hq]
      exact hplace
  · intro g d hg hd
    rcases hcases g d hd with hold | ⟨-, -, horigin⟩
    · exact h.origin g d hg hold
    · exact horigin

private theorem after_put (h : Owns start named known s) {now : Instant} {data : Bytes} {request : StoreRequest}
    {answer : Except StoreError BlobRef} (hrun : (DirectoryStore.put now data request).run s = (answer, s'))
    (hknown : s.keptFor data request.password ∈ known) : Owns start named known s' := by
  have hblob : ∀ {t t' : DirectoryStore} {p : Place} {content : Option Bytes}, Owns start named known t →
      t.tree.locate (blobPath t.base (DirectoryStore.entry now request data
        (s.keptFor data request.password)).handle) = .ok p → Differs t p content t' → Owns start named known t' := by
    intro t t' p content ht hp hdiffers
    exact ht.of_differs hdiffers fun g bytes d hg _ _ => absurd rfl (DirectoryStore.blob_ne_description hp hg)
  cases DirectoryStore.put_cases hrun with
  | onRecord | refused => exact h.afterDraw request.password
  | unlisted hnew hp hkept => exact hblob h hp hkept
  | stored hnew hp hkept hq hentered =>
    refine (hblob h hp hkept).of_differs hentered fun g bytes d _ hbytes hin => ?_
    rw [← Option.some.inj hbytes, DirectoryStore.descriptionIn?_write] at hin
    rw [← Option.some.inj hin]
    exact ⟨hq, _, hknown, rfl⟩

private theorem after_fetch (h : Owns start named known s) (hg : named g) {now : Instant} {password : Option String}
    {answer : Except StoreError Bytes} (hrun : (DirectoryStore.fetch now g password).run s = (answer, s')) :
    Owns start named known s' := by
  rcases DirectoryStore.fetch_cases hrun with rfl | ⟨d, p, hd, hp, hdiffers⟩
  · exact h
  · refine h.of_differs hdiffers fun g' bytes d' _ hbytes hin => ?_
    rw [← Option.some.inj hbytes, DirectoryStore.descriptionIn?_write] at hin
    rw [← Option.some.inj hin]
    exact ⟨hp, h.origin g d hg hd⟩

private theorem after_delete (h : Owns start named known s) {answer : Except StoreError Unit}
    (hrun : (DirectoryStore.delete g).run s = (answer, s')) : Owns start named known s' := by
  have hremoved : ∀ {t t' : DirectoryStore} {p : Place}, Owns start named known t → Differs t p none t' →
      Owns start named known t' :=
    fun ht hdiffers => ht.of_differs hdiffers fun _ _ _ _ hbytes _ => nomatch hbytes
  obtain ⟨mid, hfirst, hsecond⟩ := DirectoryStore.delete_cases hrun
  have hmid : Owns start named known mid := by
    rcases hfirst with rfl | ⟨p, -, hdiffers⟩
    · exact h
    · exact hremoved h hdiffers
  rcases hsecond with rfl | ⟨q, -, hdiffers⟩
  · exact hmid
  · exact hremoved hmid hdiffers

private theorem after_health (h : Owns start named known s) {answer : Except StoreError Health}
    (hrun : DirectoryStore.health.run s = (answer, s')) : Owns start named known s' := by
  refine DirectoryStore.of_health (fun t t' p content ht hp hdiffers => ?_) h hrun
  exact ht.of_differs hdiffers fun g bytes d hg _ _ => absurd rfl (DirectoryStore.description_ne_marker hg hp)

/-- A call keeps a store its own. -/
theorem step (h : Owns start named known s) {call : Call} (hcall : ∀ g, call.handle? = some g → named g)
    (hkept : ∀ k ∈ call.kept s, k ∈ known) : Owns start named known ((directory.run call).run s).2 := by
  cases call with
  | put now data request =>
    rw [run_put]
    exact h.after_put rfl (hkept _ List.mem_cons_self)
  | fetch now g password =>
    rw [run_fetch]
    exact h.after_fetch (hcall g rfl) rfl
  | delete g =>
    rw [run_delete]
    exact h.after_delete rfl
  | health =>
    rw [run_health]
    exact h.after_health rfl
  | contains g => exact (run_snd_of_reading (Or.inl rfl)).symm ▸ h
  | size g => exact (run_snd_of_reading (Or.inr (Or.inl rfl))).symm ▸ h
  | verify g => exact (run_snd_of_reading (Or.inr (Or.inr rfl))).symm ▸ h

/-- Calls keep a store its own. -/
theorem runAll (h : Owns start named known s) {calls : List Call} (hcalls : ∀ g ∈ handlesOf calls, named g)
    (hkept : ∀ k ∈ written s calls, k ∈ known) : Owns start named known (directory.runAll calls s).2 := by
  induction calls generalizing s with
  | nil => exact h
  | cons call calls ih =>
    rw [written] at hkept
    obtain ⟨hcall, hrest⟩ := forall_mem_handlesOf_cons.1 hcalls
    rw [runAll_cons]
    exact ih (h.step hcall fun k hk => hkept k (List.mem_append_left _ hk)) hrest fun k hk =>
      hkept k (List.mem_append_right _ hk)

end Owns

/-- Bytes that start the checksum of a blob are those of the blob. -/
def ToldByDigits (token : Bytes) (bs : List Bytes) : Prop :=
  ∀ k ∈ bs, (checksum k).toList.take Handle.suffixLength = (checksum token).toList.take Handle.suffixLength → k = token

section Holding

variable {hint : Option String}

private theorem holds_after_put (hholds : s.Holds handle token size isSealed)
    (hhandle : handle = Handle.make hint (checksum token)) {now : Instant} {data : Bytes} {request : StoreRequest}
    {answer : Except StoreError BlobRef} (hrun : (DirectoryStore.put now data request).run s = (answer, s'))
    (htold : ToldByDigits token [s.keptFor data request.password]) : s'.Holds handle token size isSealed := by
  have hcases := DirectoryStore.put_cases hrun
  have htold := htold _ List.mem_cons_self
  generalize s.keptFor data request.password = k at hcases htold
  have hspared : (∀ d, s.described (DirectoryStore.entry now request data k).handle = .ok d →
      d.checksum ≠ (DirectoryStore.entry now request data k).checksum) →
      ¬ s.Aliases (DirectoryStore.entry now request data k).handle handle := by
    intro hnew
    have hne : (DirectoryStore.entry now request data k).handle ≠ handle := by
      intro heq
      have hdigits := ((Handle.make_eq_make_iff (Handle.suffixLength_le_checksum k)
        (Handle.suffixLength_le_checksum token)).1 (heq.trans hhandle)).2
      obtain rfl := htold hdigits
      obtain ⟨d, hd, -, hsum, -⟩ := hholds.described
      exact hnew d (by rw [heq, hd]) hsum
    refine DirectoryStore.not_aliases (Handle.isName_make _ _) ?_ hne
    rw [hhandle]
    exact Handle.isName_make _ _
  cases hcases with
  | onRecord | refused => exact hholds.afterDraw request.password
  | unlisted hnew hp hkept => exact hholds.of_within (.of_differs hkept (Or.inl hp)) (hspared hnew)
  | stored hnew hp hkept hq hentered =>
    exact hholds.of_within ((Within.of_differs hkept (Or.inl hp)).trans (.of_differs hentered (Or.inr hq)))
      (hspared hnew)

private theorem holds_after_fetch (h : Owns start named known s) (hg : named g)
    (hholds : s.Holds handle token size isSealed) {now : Instant} {password : Option String}
    {answer : Except StoreError Bytes} (hrun : (DirectoryStore.fetch now g password).run s = (answer, s')) :
    s'.Holds handle token size isSealed := by
  rcases DirectoryStore.fetch_cases hrun with rfl | ⟨d, p, hd, hp, hdiffers⟩
  · exact hholds
  obtain ⟨e, he, -⟩ := hholds.described
  obtain ⟨q, bytes, hq, -⟩ := DirectoryStore.exists_place_of_described he
  -- Another spelling of the handle may lead to the same file, but then also to the same description.
  by_cases hsame : q = p
  · subst hsame
    obtain ⟨r, bytes', hr, -⟩ := DirectoryStore.exists_place_of_described hd
    have hplace := h.place g d hg hd r hr
    rw [hp] at hplace
    obtain rfl := Except.ok.inj hplace
    exact hholds.noted ((DirectoryStore.described_of_same_place hr hq).1 hd) hq hdiffers
  · refine hholds.elsewhere hdiffers (fun r hr => ?_) fun r hr => DirectoryStore.blob_ne_description hr hp
    rw [hq] at hr
    rw [← Except.ok.inj hr]
    exact hsame

private theorem holds_after_health (hholds : s.Holds handle token size isSealed)
    {answer : Except StoreError Health} (hrun : DirectoryStore.health.run s = (answer, s')) :
    s'.Holds handle token size isSealed := by
  refine DirectoryStore.of_health (P := fun t => t.Holds handle token size isSealed)
    (fun t t' p content ht hp hdiffers => ?_) hholds hrun
  exact ht.elsewhere hdiffers (fun r hr => DirectoryStore.description_ne_marker hr hp) fun r hr =>
    DirectoryStore.blob_ne_marker hr hp

private theorem holds_after_call (h : Owns start named known s) {call : Call}
    (hcall : ∀ g, call.handle? = some g → named g) (hholds : s.Holds handle token size isSealed)
    (hhandle : handle = Handle.make hint (checksum token)) (htold : ToldByDigits token (call.kept s))
    (hspared : ∀ g, call = .delete g → ¬ start.Aliases g handle) :
    ((directory.run call).run s).2.Holds handle token size isSealed := by
  cases call with
  | put now data request =>
    rw [run_put]
    exact holds_after_put hholds hhandle rfl htold
  | fetch now g password =>
    rw [run_fetch]
    exact holds_after_fetch h (hcall g rfl) hholds rfl
  | delete g =>
    rw [run_delete]
    refine hholds.of_within (DirectoryStore.within_of_delete rfl) fun haliases => ?_
    exact hspared g rfl (h.aliases_iff.1 haliases)
  | health =>
    rw [run_health]
    exact holds_after_health hholds rfl
  | contains g => exact (run_snd_of_reading (Or.inl rfl)).symm ▸ hholds
  | size g => exact (run_snd_of_reading (Or.inr (Or.inl rfl))).symm ▸ hholds
  | verify g => exact (run_snd_of_reading (Or.inr (Or.inr rfl))).symm ▸ hholds

private theorem holds_after_calls (h : Owns start named known s) {calls : List Call}
    (hcalls : ∀ g ∈ handlesOf calls, named g) (hknown : ∀ k ∈ written s calls, k ∈ known)
    (hholds : s.Holds handle token size isSealed) (hhandle : handle = Handle.make hint (checksum token))
    (htold : ToldByDigits token (written s calls)) (hspared : ∀ g, Call.delete g ∈ calls → ¬ start.Aliases g handle) :
    (directory.runAll calls s).2.Holds handle token size isSealed := by
  induction calls generalizing s with
  | nil => exact hholds
  | cons call calls ih =>
    rw [written] at hknown htold
    obtain ⟨hcall, hrest⟩ := forall_mem_handlesOf_cons.1 hcalls
    have hnext := holds_after_call h hcall hholds hhandle (fun k hk => htold k (List.mem_append_left _ hk))
      fun g hg => hspared g (hg ▸ List.mem_cons_self)
    rw [runAll_cons]
    exact ih (h.step hcall fun k hk => hknown k (List.mem_append_left _ hk)) hrest
      (fun k hk => hknown k (List.mem_append_right _ hk)) hnext (fun k hk => htold k (List.mem_append_right _ hk))
      fun g hg => hspared g (List.mem_cons_of_mem call hg)

end Holding

private theorem owns_of_isEmpty (hempty : start.IsEmpty) {handles : List String}
    (hforeign : ∀ g ∈ handles, ¬ Handle.IsName g → ∀ d, start.described g ≠ .ok d) :
    Owns start (fun g => Handle.IsName g ∨ g ∈ handles) [] start := by
  have hblank : ∀ g, Handle.IsName g ∨ g ∈ handles → ∀ d, start.described g ≠ .ok d := by
    intro g hg
    by_cases hname : Handle.IsName g
    · exact hempty.described_ne_ok hname
    · exact hforeign g (hg.resolve_left hname) hname
  exact ⟨rfl, fun _ => Iff.rfl, fun g d hg hd => absurd hd (hblank g hg d), fun g d hg hd => absurd hd (hblank g hg d)⟩

/-- Data that are stored with a password in an empty directory keep to that password: whatever the store is asked before
and after, they can be got with it and not without one, and what is kept of them is intact. The token that they are
sealed in is a new one, and no other bytes that are written share the first digits of its checksum. Handles are not
checked, so two things are asked of them: one that is no name leads to no description that was there before the store,
and none is removed that shares a file with theirs. -/
theorem sealed_data_are_kept {before after : List Call} {now : Instant} {data : Bytes} {request : StoreRequest}
    {password : String} {ref : BlobRef} {stored : DirectoryStore}
    (hempty : start.IsEmpty)
    (hforeign : ∀ g ∈ handlesOf (before ++ after), ¬ Handle.IsName g → ∀ d, start.described g ≠ .ok d)
    (hpassword : request.password = some password)
    (hput : (DirectoryStore.put now data request).run (directory.runAll before start).2 = (.ok ref, stored))
    (hnew : (directory.runAll before start).2.keptFor data request.password ∉ written start before)
    (htold : ToldByDigits ((directory.runAll before start).2.keptFor data request.password)
      (written start before ++ written stored after))
    (hspared : ∀ g, Call.delete g ∈ after → ¬ start.Aliases g ref.handle) (later : Instant) :
    ((DirectoryStore.fetch later ref.handle (some password)).run (directory.runAll after stored).2).1 = .ok data ∧
      ((DirectoryStore.fetch later ref.handle none).run (directory.runAll after stored).2).1 =
        .error (.passwordNeeded ref.handle) ∧
      ((DirectoryStore.size ref.handle).run (directory.runAll after stored).2).1 = .ok (UInt64.ofNat data.length) ∧
      ∃ i, ((DirectoryStore.verify ref.handle).run (directory.runAll after stored).2).1 = .ok i ∧ i.isValid = true := by
  have hstart := owns_of_isEmpty hempty hforeign
  have hhandles : handlesOf (before ++ after) = handlesOf before ++ handlesOf after := List.filterMap_append
  have hnothing : ∀ k ∈ ([] : List Bytes), k ∈ written start before := nofun
  have hbefore := (hstart.mono hnothing).runAll
    (fun g hg => Or.inr (by rw [hhandles]; exact List.mem_append_left _ hg)) fun k hk => hk
  generalize (directory.runAll before start).2 = s at *
  have hhandle := DirectoryStore.handle_of_put hput
  have hname := DirectoryStore.isName_of_put hput
  have hfirst : ∀ d, s.described ref.handle = .ok d → d.checksum ≠ ref.checksum := by
    intro d hd hsum
    obtain ⟨k, hk, hchecksum⟩ := hbefore.origin ref.handle d (Or.inl hname) hd
    rw [hsum, DirectoryStore.checksum_of_put hput] at hchecksum
    exact hnew (htold k (List.mem_append_left _ hk) (by rw [hchecksum]) ▸ hk)
  have hsealed : request.password.isSome = true := by
    rw [hpassword]
    rfl
  have hholds := DirectoryStore.holds_of_new hput hfirst
  have hmore : ∀ k ∈ written start before,
      k ∈ written start before ++ s.keptFor data request.password :: written stored after :=
    fun k hk => List.mem_append_left _ hk
  have howns := (hbefore.mono hmore).after_put hput (List.mem_append_right _ List.mem_cons_self)
  have hlast := holds_after_calls howns
    (fun g hg => Or.inr (by rw [hhandles]; exact List.mem_append_right _ hg))
    (fun k hk => List.mem_append_right _ (List.mem_cons_of_mem _ hk)) hholds hhandle
    (fun k hk => htold k (List.mem_append_right _ hk)) hspared
  obtain ⟨fetched, -, -, hfetch, -⟩ :=
    hlast.exists_run_fetch later fun d hd => DirectoryStore.unlock_keptFor hd ref.handle
  have hdenied := hlast.run_fetch_error later fun d hd => DirectoryStore.unlock_without_password (hd.trans hsealed)
  rw [hpassword] at hfetch
  rw [hfetch, hdenied, hlast.run_size, hlast.run_verify]
  exact ⟨rfl, rfl, rfl, _, rfl, beq_self_eq_true _⟩

/-- Calls after one that sealed data: an attempt without the password, the token stored as it is, and more. -/
def laterCalls (handle : String) (token : Bytes) : List Call :=
  [.fetch default handle none, .put default token (.ofType "text/plain"), .verify handle, .delete "other", .health]

private theorem handlesOf_laterCalls (handle : String) (token : Bytes) :
    handlesOf (laterCalls handle token) = [handle, handle, "other"] := rfl

private theorem written_laterCalls (s : DirectoryStore) (handle : String) (token : Bytes) :
    written s (laterCalls handle token) = [token] := by
  simp [written, laterCalls, Call.kept, DirectoryStore.keptFor, StoreRequest.ofType]

def secretRequest : StoreRequest := { StoreRequest.ofType "text/plain" with password := some "secret" }

private theorem other_ne_make (checksum : String) : "other" ≠ Handle.make none checksum := by
  intro h
  have hhead := congrArg (fun g : String => g.toList.head?) h
  have hblob : Handle.sanitized none = 'b' :: "lob".toList := by decide
  simp only [Handle.make, String.toList_ofList, hblob, List.cons_append, List.head?_cons] at hhead
  exact absurd hhead (by decide)

/-- Sealed data are kept over such calls. -/
theorem sealed_data_are_kept_over_calls : ∃ start ref stored, start.IsEmpty ∧
    (DirectoryStore.put default [1] secretRequest).run start = (.ok ref, stored) ∧
      ((DirectoryStore.fetch default ref.handle (some "secret")).run
        (directory.runAll (laterCalls ref.handle (start.keptFor [1] secretRequest.password)) stored).2).1 = .ok [1] := by
  have hpassword : secretRequest.password = some "secret" := rfl
  have hhint : secretRequest.hint = none := rfl
  generalize secretRequest = request at *
  have hempty := DirectoryStore.isEmpty_opened fun _ => default
  obtain ⟨ref, stored, hput⟩ := DirectoryStore.exists_run_put_opened (fun _ => default) default [1] hhint
  generalize DirectoryStore.opened (fun _ => default) = start at hput hempty
  have hhandle := DirectoryStore.handle_of_put hput
  rw [hhint] at hhandle
  have hname := DirectoryStore.isName_of_put hput
  have hother : "other" ≠ ref.handle := by
    rw [hhandle]
    exact other_ne_make _
  have hnames : ∀ g ∈ handlesOf ([] ++ laterCalls ref.handle (start.keptFor [1] request.password)),
      ¬ Handle.IsName g → ∀ d, start.described g ≠ .ok d := by
    intro g hg hno
    rw [List.nil_append, handlesOf_laterCalls] at hg
    simp only [List.mem_cons, List.not_mem_nil, or_false] at hg
    rcases hg with rfl | rfl | rfl
    · exact absurd hname hno
    · exact absurd hname hno
    · exact absurd (by decide) hno
  have htold : ToldByDigits (start.keptFor [1] request.password) (written start [] ++
      written stored (laterCalls ref.handle (start.keptFor [1] request.password))) := by
    rw [written_laterCalls]
    exact fun k hk _ => List.mem_singleton.1 hk
  have hspared : ∀ g, Call.delete g ∈ laterCalls ref.handle (start.keptFor [1] request.password) →
      ¬ start.Aliases g ref.handle := by
    intro g hg
    obtain rfl : g = "other" := by simpa [laterCalls] using hg
    exact DirectoryStore.not_aliases (by decide) hname hother
  have hnone : start.keptFor [1] request.password ∉ written start [] := List.not_mem_nil
  exact ⟨start, ref, stored, hempty, hput,
    (sealed_data_are_kept hempty hnames hpassword hput hnone htold hspared default).1⟩

private theorem exists_run_delete_of_same_places (h : s.Holds handle token size isSealed)
    (hblob : ∀ r, s.tree.locate (blobPath s.base handle) = .ok r → s.tree.locate (blobPath s.base g) = .ok r)
    (hdescription : ∀ r, s.tree.locate (descriptionPath s.base handle) = .ok r →
      s.tree.locate (descriptionPath s.base g) = .ok r) :
    ∃ s', (DirectoryStore.delete g).run s = (.ok (), s') ∧ s'.described handle = .error (.unknownHandle handle) := by
  obtain ⟨d, hd, -⟩ := h.described
  obtain ⟨q, bytes, hq, -⟩ := DirectoryStore.exists_place_of_described hd
  obtain ⟨p, hp, -⟩ := FileTree.read_eq_ok.1 (DirectoryStore.keptAt_eq_ok.1 h.keptAt)
  have hkept := (DirectoryStore.keptAt_of_same_place hp (hblob p hp)).1 h.keptAt
  have hdescribed := (DirectoryStore.described_of_same_place hq (hdescription q hq)).1 hd
  obtain ⟨p', q', mid, s', hrun, hp', hmid, hq', hlast⟩ :=
    DirectoryStore.exists_run_delete_of_described hkept hdescribed
  obtain rfl := Except.ok.inj ((hdescription q hq).symm.trans hq')
  refine ⟨s', hrun, DirectoryStore.described_of_missing ?_⟩
  rw [hlast.base, hmid.base]
  exact hlast.tree.contains_here (hmid.locate_eq_ok.2 hq)

/-- Handles are not checked: sealed data are lost to the removal of another handle, theirs with a dot in front. -/
theorem sealed_data_are_lost_to_dotted_removal : ∃ ref stored,
    (DirectoryStore.put default [1] secretRequest).run (DirectoryStore.opened fun _ => default) = (.ok ref, stored) ∧
      "./" ++ ref.handle ≠ ref.handle ∧
      (directory.runAll [.delete ("./" ++ ref.handle)] stored).1 = [.ok .done] ∧
      ((DirectoryStore.fetch default ref.handle (some "secret")).run
        (directory.runAll [.delete ("./" ++ ref.handle)] stored).2).1 = .error (.unknownHandle ref.handle) := by
  have hhint : secretRequest.hint = none := rfl
  generalize secretRequest = request at *
  have hempty := DirectoryStore.isEmpty_opened fun _ => default
  obtain ⟨ref, stored, hput⟩ := DirectoryStore.exists_run_put_opened (fun _ => default) default [1] hhint
  have hhandle := DirectoryStore.handle_of_put hput
  rw [hhint] at hhandle
  have hname := DirectoryStore.isName_of_put hput
  have hdotted := DirectoryStore.locate_dotted (fun _ => default)
    ((DirectoryStore.opened fun _ => default).keptFor [1] request.password)
  rw [← hhandle] at hdotted
  have hwithin := DirectoryStore.within_of_put hput
  have hbase : stored.base = "/s" := hwithin.base
  have hholds := DirectoryStore.holds_of_new hput fun d hd => absurd hd (hempty.described_ne_ok hname d)
  obtain ⟨s', hrun, hgone⟩ := exists_run_delete_of_same_places (g := "./" ++ ref.handle) hholds
    (by rw [hbase]; exact fun r hr => hwithin.locate_eq_ok.2 (hdotted.1.trans (hwithin.locate_eq_ok.1 hr)))
    (by rw [hbase]; exact fun r hr => hwithin.locate_eq_ok.2 (hdotted.2.trans (hwithin.locate_eq_ok.1 hr)))
  have hdelete : (directory.delete ("./" ++ ref.handle)).run stored = (.ok (), s') := hrun
  refine ⟨ref, stored, hput, ?_, ?_, ?_⟩
  · intro heq
    have hlength := congrArg String.length heq
    rw [String.length_append] at hlength
    exact absurd hlength (by simp)
  · rw [runAll_cons, run_delete, hdelete]
    rfl
  · rw [runAll_cons, run_delete, hdelete]
    change ((DirectoryStore.fetch default ref.handle (some "secret")).run s').1 = _
    rw [DirectoryStore.run_fetch, hgone]

end TieredLedger.OffChainStore
