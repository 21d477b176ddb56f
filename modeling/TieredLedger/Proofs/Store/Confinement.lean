import TieredLedger.Proofs.FileTree.Resolution
import TieredLedger.Proofs.Store.Custody
import TieredLedger.Proofs.Store.Renewal

/-! Which files a handle leads to. The two files of a handle lie in the directories of the store exactly if the names in
front of its last slash lead back to where they start, and calls on a handle have to do with those two files only. -/
namespace TieredLedger.DirectoryStore

open FileTree (walk resolved leadingNames)

variable {s t : DirectoryStore} {base g path : String} {p : Place} {α : Type}

section Places

/-- A path that spells a place right below a directory. -/
def IsChild (directory path : String) : Prop := ∃ name, resolved path = resolved directory ++ [name]

/-- A handle that does not start at the root and leads to no other directory. -/
structure StaysPut (g : String) : Prop where
  relative : g.toList.head? ≠ some '/'
  leads_back : ∀ here, walk here (leadingNames g) = here

private theorem staysPut_of_isName (hg : Handle.IsName g) : StaysPut g where
  relative h := hg '/' (List.mem_of_mem_head? h) rfl
  leads_back here := by rw [FileTree.leadingNames_of_clear hg, walk]

private theorem resolved_join_of_clear {name : String} (hclear : ∀ c ∈ name.toList, c ≠ '/') (hlong : 2 < name.length) :
    resolved (join base name) = resolved base ++ [name] := by
  have hnothing : ∀ c ∈ "".toList, c ≠ '/' := List.forall_mem_ne'.2 (by decide)
  have hjoin := resolved_join base "" hclear hlong
  rwa [String.empty_append, FileTree.leadingNames_of_clear hnothing, walk, start, if_neg (by decide),
    FileTree.lastName_of_clear hnothing, String.empty_append] at hjoin

private theorem resolved_dataPath (base : String) : resolved (dataPath base) = resolved base ++ ["data"] :=
  resolved_join_of_clear (List.forall_mem_ne'.2 (by decide)) (by decide)

private theorem resolved_descriptionsPath (base : String) :
    resolved (descriptionsPath base) = resolved base ++ ["meta"] :=
  resolved_join_of_clear (List.forall_mem_ne'.2 (by decide)) (by decide)

private theorem isChild_join_iff (directory : String) {ending : String} (hending : ∀ c ∈ ending.toList, c ≠ '/')
    (hlong : 2 < ending.length) : IsChild directory (join directory (g ++ ending)) ↔
      walk (start (resolved directory) g) (leadingNames g) = resolved directory := by
  rw [IsChild, resolved_join directory g hending hlong]
  constructor
  · rintro ⟨name, hname⟩
    exact (List.append_inj' hname rfl).1
  · intro hback
    exact ⟨_, by rw [hback]⟩

/-- The two files of a handle lie in the directories of the store exactly if the handle stays put. -/
theorem isChild_iff_staysPut (base g : String) :
    IsChild (dataPath base) (blobPath base g) ∧ IsChild (descriptionsPath base) (descriptionPath base g) ↔
      StaysPut g := by
  have hblob := isChild_join_iff (g := g) (dataPath base)
    (List.forall_mem_ne'.2 (by decide) : ∀ c ∈ ".dat".toList, c ≠ '/') (by decide)
  have hdescription := isChild_join_iff (g := g) (descriptionsPath base)
    (List.forall_mem_ne'.2 (by decide) : ∀ c ∈ ".json".toList, c ≠ '/') (by decide)
  rw [blobPath, descriptionPath, hblob, hdescription, resolved_dataPath, resolved_descriptionsPath]
  constructor
  · rintro ⟨hdata, hdescriptions⟩
    by_cases hroot : g.toList.head? = some '/'
    · rw [start, if_pos hroot] at hdata hdescriptions
      exact absurd (List.append_cancel_left (hdata.symm.trans hdescriptions)) (by decide)
    · rw [start, if_neg hroot] at hdata hdescriptions
      exact ⟨hroot, FileTree.walk_eq_of_siblings (by decide) hdata hdescriptions⟩
  · intro h
    rw [start, if_neg h.relative, start, if_neg h.relative]
    exact ⟨h.leads_back _, h.leads_back _⟩

/-- The places of the two files of a handle. -/
def files (base g : String) : List Place := [resolved (blobPath base g), resolved (descriptionPath base g)]

private theorem blob_mem_files (base g : String) : resolved (blobPath base g) ∈ files base g := List.mem_cons_self

private theorem description_mem_files (base g : String) : resolved (descriptionPath base g) ∈ files base g :=
  List.mem_cons_of_mem _ (List.mem_singleton_self _)

private theorem mem_files_of_locate {t : FileTree}
    (h : t.locate (blobPath base g) = .ok p ∨ t.locate (descriptionPath base g) = .ok p) : p ∈ files base g := by
  rcases h with h | h
  · rw [FileTree.eq_resolved_of_locate h]
    exact blob_mem_files base g
  · rw [FileTree.eq_resolved_of_locate h]
    exact description_mem_files base g

end Places

section Footprint

/-- Stores in one place that have the same directories and the same files of a handle. -/
structure Alike (g : String) (s t : DirectoryStore) : Prop where
  base : t.base = s.base
  tree : FileTree.Alike (files s.base g) s.tree t.tree

namespace Alike

private theorem described (h : Alike g s t) : t.described g = s.described g := by
  have hpath := description_mem_files s.base g
  rw [DirectoryStore.described, DirectoryStore.described, h.base, h.tree.contains hpath]
  split
  · rfl
  · next hthere => rw [h.tree.readText hpath (Bool.eq_true_of_not_eq_false hthere)]

private theorem keptAt (h : Alike g s t) : t.keptAt g = s.keptAt g := by
  have hpath := blob_mem_files s.base g
  rw [DirectoryStore.keptAt, DirectoryStore.keptAt, h.base, h.tree.contains hpath]
  split
  · rfl
  · next hthere => rw [h.tree.read hpath (Bool.eq_true_of_not_eq_false hthere)]

private theorem removeFile (h : Alike g s t) (hpath : resolved path ∈ files s.base g) : ∃ answer s' t',
    (removeFile path).run s = (answer, s') ∧ (removeFile path).run t = (answer, t') ∧ s'.base = s.base ∧
      Alike g s' t' := by
  rw [run_removeFile, run_removeFile, h.tree.contains hpath]
  split
  · next hthere =>
    rcases h.tree.remove hpath hthere with ⟨cause, hs, ht⟩ | ⟨u, u', hs, ht, halike⟩
    · rw [hs, ht]
      exact ⟨_, s, t, rfl, rfl, rfl, h⟩
    · rw [hs, ht]
      exact ⟨_, { s with tree := u }, { t with tree := u' }, rfl, rfl, rfl, h.base, halike⟩
  · exact ⟨_, s, t, rfl, rfl, rfl, h⟩

end Alike

/-- A call that keeps to the files of a handle. It changes no other file, and it makes no difference to what it answers
and to what it does to those files what other files there are. -/
structure KeepsTo (g : String) (s : DirectoryStore) (act : StoreM DirectoryStore α) : Prop where
  changes : ∀ q ∉ files s.base g, (act.run s).2.tree.node? q = s.tree.node? q
  looks : ∀ t, Alike g s t → (act.run t).1 = (act.run s).1 ∧ Alike g (act.run s).2 (act.run t).2

private theorem keepsTo_of_answer {act : StoreM DirectoryStore α} (answer : DirectoryStore → Except StoreError α)
    (hrun : ∀ s, act.run s = (answer s, s)) (hanswer : ∀ t, Alike g s t → answer t = answer s) : KeepsTo g s act where
  changes q _ := by rw [hrun]
  looks t h := by
    rw [hrun, hrun]
    exact ⟨hanswer t h, h⟩

private theorem keepsTo_contains (s : DirectoryStore) (g : String) : KeepsTo g s (contains g) := by
  refine keepsTo_of_answer _ (fun s => run_contains) fun t h => ?_
  rw [h.base, h.tree.contains (description_mem_files s.base g), h.tree.contains (blob_mem_files s.base g)]

private theorem keepsTo_describe (s : DirectoryStore) (g : String) : KeepsTo g s (describe g) :=
  keepsTo_of_answer _ (fun _ => run_describe) fun _ h => h.described

private theorem keepsTo_size (s : DirectoryStore) (g : String) : KeepsTo g s (DirectoryStore.size g) := by
  refine keepsTo_of_answer _ (fun s => run_size) fun t h => ?_
  rw [h.described]

private theorem keepsTo_verify (s : DirectoryStore) (g : String) : KeepsTo g s (verify g) := by
  refine keepsTo_of_answer _ (fun s => run_verify) fun t h => ?_
  rw [h.described, h.keptAt]

private theorem keepsTo_delete (s : DirectoryStore) (g : String) : KeepsTo g s (delete g) where
  changes q hq := (within_of_delete (Prod.eta _).symm).others q
    (fun hblob => hq (mem_files_of_locate (Or.inl hblob)))
    fun hdescription => hq (mem_files_of_locate (Or.inr hdescription))
  looks t h := by
    rw [run_delete, run_delete, h.base, h.tree.contains (description_mem_files s.base g)]
    split
    · exact ⟨rfl, h⟩
    obtain ⟨answer, s', t', hs, ht, hbase, hmid⟩ := h.removeFile (blob_mem_files s.base g)
    rw [hs, ht]
    cases answer with
    | error e => exact ⟨rfl, hmid⟩
    | ok _ =>
      rw [← hbase]
      obtain ⟨answer, s'', t'', hs', ht', -, hlast⟩ := hmid.removeFile (description_mem_files s'.base g)
      dsimp only
      rw [hs', ht']
      exact ⟨rfl, hlast⟩

/-- What is described under a handle is described under the handle that the description names. -/
def RecordsItself (s : DirectoryStore) (g : String) : Prop :=
  ∀ d p, s.described g = .ok d → s.tree.locate (descriptionPath s.base g) = .ok p →
    s.tree.locate (descriptionPath s.base d.handle) = .ok p

/-- A store in which nothing was described keeps to the handles of its descriptions, whatever it is asked. -/
theorem recordsItself_of_runAll (calls : List OffChainStore.Call)
    (hblank : ∀ h, h = g ∨ h ∈ OffChainStore.handlesOf calls → ∀ d, s.described h ≠ .ok d) :
    (OffChainStore.directory.runAll calls s).2.RecordsItself g := by
  have hstart : OffChainStore.Owns s (fun h => h = g ∨ h ∈ OffChainStore.handlesOf calls)
      (OffChainStore.written s calls) s :=
    ⟨rfl, fun _ => Iff.rfl, fun h d hh hd => absurd hd (hblank h hh d), fun h d hh hd => absurd hd (hblank h hh d)⟩
  have hend := hstart.runAll (fun h hh => Or.inr hh) fun k hk => hk
  exact fun d p hd hp => hend.place g d (Or.inl rfl) hd p hp

/-- Getting a blob keeps to the files of its handle, if the description that it rewrites is the one that it read. -/
theorem keepsTo_fetch (h : s.RecordsItself g) (now : Instant) (password : Option String) :
    KeepsTo g s (fetch now g password) where
  changes q hq := by
    rcases fetch_cases (Prod.eta _).symm with hsame | ⟨d, p, hd, hp, hnoted⟩
    · rw [hsame]
    · obtain ⟨q', bytes, hq', -⟩ := exists_place_of_described hd
      obtain rfl := Except.ok.inj (hp.symm.trans (h d q' hd hq'))
      rw [hnoted.tree.node?, if_neg]
      rintro rfl
      exact hq (mem_files_of_locate (Or.inr hq'))
  looks t halike := by
    rw [run_fetch, run_fetch, halike.described, halike.keptAt, halike.base]
    cases hd : s.described g with
    | error e => exact ⟨rfl, halike⟩
    | ok d =>
      cases s.keptAt g with
      | error e => exact ⟨rfl, halike⟩
      | ok kept =>
        dsimp only
        cases unlock d g kept password with
        | error e => exact ⟨rfl, halike⟩
        | ok data =>
          obtain ⟨p, bytes, hp, hnode⟩ := exists_place_of_described hd
          have hplace := h d p hd hp
          have hfile : s.tree.node? p ≠ some .directory := by
            rw [hnode]
            simp
          obtain ⟨u, hs, hchanges⟩ := FileTree.exists_write hplace hfile (Bytes.ofText (noted d now).write)
          obtain ⟨u', ht, hchanges'⟩ := FileTree.exists_write (halike.tree.locate_eq_ok.2 hplace)
            (fun h => hfile ((halike.tree.directories p).1 h)) (Bytes.ofText (noted d now).write)
          dsimp only
          rw [hs, ht]
          exact ⟨rfl, rfl, halike.tree.changes hchanges hchanges'⟩

end Footprint

/-- The two files of a handle lie in the directories of the store exactly if the handle stays put, as all handles do
that a store makes. Whatever the handle, its paths lead to those two places if anywhere, and a call changes no other
files and depends on no others. For getting a blob that needs a description of the handle that it is found under, and so
it is in every store in which nothing was described before its own calls. -/
theorem handles_keep_to_their_files (s : DirectoryStore) (g : String) :
    (IsChild (dataPath s.base) (blobPath s.base g) ∧ IsChild (descriptionsPath s.base) (descriptionPath s.base g) ↔
      StaysPut g) ∧
    (∀ hint bs, StaysPut (Handle.make hint (checksum bs))) ∧
    (∀ p, s.tree.locate (blobPath s.base g) = .ok p ∨ s.tree.locate (descriptionPath s.base g) = .ok p →
      p ∈ files s.base g) ∧
    (KeepsTo g s (contains g) ∧ KeepsTo g s (DirectoryStore.size g) ∧ KeepsTo g s (describe g) ∧
      KeepsTo g s (delete g) ∧ KeepsTo g s (verify g)) ∧
    (s.RecordsItself g → ∀ now password, KeepsTo g s (fetch now g password)) ∧
    ∀ calls, (∀ h, h = g ∨ h ∈ OffChainStore.handlesOf calls → ∀ d, s.described h ≠ .ok d) →
      (OffChainStore.directory.runAll calls s).2.RecordsItself g := by
  refine ⟨isChild_iff_staysPut s.base g, fun hint bs => staysPut_of_isName (Handle.isName_make hint bs),
    fun p => mem_files_of_locate, ?_, ?_, ?_⟩
  · exact ⟨keepsTo_contains s g, keepsTo_size s g, keepsTo_describe s g, keepsTo_delete s g, keepsTo_verify s g⟩
  · exact fun h => keepsTo_fetch h
  · exact fun calls hblank => recordsItself_of_runAll calls hblank

private theorem described_opened_ne_ok (draws : Nat → Draw) (d : Description) : (opened draws).described g ≠ .ok d := by
  intro hd
  obtain ⟨p, bytes, -, hnode⟩ := exists_place_of_described hd
  rw [opened, openedTree, FileTree.node?_set (by decide), FileTree.node?_set (by decide),
    FileTree.node?_set (by decide)] at hnode
  simp only [FileTree.node?, FileTree.empty, Std.TreeMap.getElem?_emptyc] at hnode
  split_ifs at hnode <;> cases hnode

/-- The blob of a store that was just opened is got from the directories of the store and from no other file. -/
theorem opened_keeps_to_stored_files : ∃ ref s',
    (put default [1] textRequest).run (opened fun _ => default) = (.ok ref, s') ∧
    IsChild (dataPath s'.base) (blobPath s'.base ref.handle) ∧
    IsChild (descriptionsPath s'.base) (descriptionPath s'.base ref.handle) ∧ s'.RecordsItself ref.handle ∧
    ∀ now password, KeepsTo ref.handle s' (fetch now ref.handle password) := by
  obtain ⟨ref, s', hput⟩ := exists_run_put_opened (fun _ => default) default [1] (rfl : textRequest.hint = none)
  have hrun : (OffChainStore.directory.runAll [.put default [1] textRequest] (opened fun _ => default)).2 = s' := by
    have hcall : (OffChainStore.directory.put default [1] textRequest).run (opened fun _ => default) = (.ok ref, s') :=
      hput
    rw [OffChainStore.runAll_cons, OffChainStore.run_put, hcall]
    rfl
  obtain ⟨-, hmade, -, -, -, hcalls⟩ := handles_keep_to_their_files (opened fun _ => default) ref.handle
  obtain ⟨hplaces, -, -, -, hfetch, -⟩ := handles_keep_to_their_files s' ref.handle
  have hrecords : s'.RecordsItself ref.handle := by
    rw [← hrun]
    exact hcalls _ fun h _ d => described_opened_ne_ok _ d
  have hstays : StaysPut ref.handle := by
    rw [handle_of_put hput]
    exact hmade _ _
  obtain ⟨hblob, hdescription⟩ := hplaces.2 hstays
  exact ⟨ref, s', hput, hblob, hdescription, hrecords, hfetch hrecords⟩

def neighbour : Description := { entry default textRequest [1] [1] with handle := "../x" }

def exposed : DirectoryStore where
  base := "/s"
  tree := (openedTree.set ["s", "x.dat"] (.file [1])).set ["s", "x.json"] (.file (Bytes.ofText neighbour.write))
  draws _ := default
  drawn := 0

private theorem holds_exposed : exposed.Holds "../x" [1] 1 false := by
  have hblob : openedTree.locate (blobPath "/s" "../x") = .ok ["s", "x.dat"] := by decide +kernel
  have hdescription : openedTree.locate (descriptionPath "/s" "../x") = .ok ["s", "x.json"] := by decide +kernel
  have hnone : openedTree.node? ["s", "x.dat"] ≠ some .directory ∧
      openedTree.node? ["s", "x.json"] ≠ some .directory := by decide +kernel
  have hfirst : Differs (opened fun _ => default) ["s", "x.dat"] (some [1])
      ⟨"/s", openedTree.set ["s", "x.dat"] (.file [1]), fun _ => default, 0⟩ :=
    ⟨rfl, hnone.1, FileTree.node?_set (by decide) _⟩
  have hsecond : Differs ⟨"/s", openedTree.set ["s", "x.dat"] (.file [1]), fun _ => default, 0⟩ ["s", "x.json"]
      (some (Bytes.ofText neighbour.write)) exposed :=
    ⟨rfl, fun h => hnone.2 ((hfirst.tree.directories _).1 h), FileTree.node?_set (by decide) _⟩
  have hsum : neighbour.checksum = checksum [1] := rfl
  exact holds_of_entered (s := opened fun _ => default) hsum hblob hfirst (hfirst.locate_eq_ok.2 hdescription) hsecond

/-- A handle with dots in it leads out of the directories of the store: other files are read and removed. So does a
handle that is a path from the root. -/
theorem dotted_handle_reaches_neighbour :
    ¬ IsChild (dataPath exposed.base) (blobPath exposed.base "../x") ∧
    ¬ IsChild (descriptionsPath exposed.base) (descriptionPath exposed.base "../x") ∧
    ¬ IsChild (dataPath exposed.base) (blobPath exposed.base "/x") ∧
    ((contains "../x").run exposed).1 = .ok true ∧
    ((fetch default "../x" none).run exposed).1 = .ok [1] ∧
    ∃ s', (delete "../x").run exposed = (.ok (), s') ∧
      exposed.tree.node? ["s", "x.dat"] = some (.file [1]) ∧ s'.tree.node? ["s", "x.dat"] = none ∧
      (exposed.tree.node? ["s", "x.json"]).isSome = true ∧ s'.tree.node? ["s", "x.json"] = none := by
  have hdata : resolved (dataPath "/s") = ["s", "data"] := by decide +kernel
  have hdescriptions : resolved (descriptionsPath "/s") = ["s", "meta"] := by decide +kernel
  have hblob : resolved (blobPath "/s" "../x") = ["s", "x.dat"] := by decide +kernel
  have hdescription : resolved (descriptionPath "/s" "../x") = ["s", "x.json"] := by decide +kernel
  have hroot : resolved (blobPath "/s" "/x") = ["x.dat"] := by decide +kernel
  have hunlock : ∀ d : Description, d.sealed = false → unlock d "../x" [1] none = .ok [1] :=
    fun d hd => unlock_of_not_sealed hd
  have hholds := holds_exposed
  obtain ⟨p, q, mid, s', hdelete, hp, hmid, hq, hlast⟩ := hholds.exists_run_delete
  obtain ⟨last, d, r, hfetch, -⟩ := hholds.exists_run_fetch default hunlock
  obtain rfl := (FileTree.eq_resolved_of_locate hp).trans hblob
  obtain rfl := (FileTree.eq_resolved_of_locate hq).trans hdescription
  refine ⟨?_, ?_, ?_, ?_, ?_, s', hdelete, ?_, ?_, ?_, ?_⟩
  · rintro ⟨name, hname⟩
    rw [exposed, hblob, hdata] at hname
    simp at hname
  · rintro ⟨name, hname⟩
    rw [exposed, hdescription, hdescriptions] at hname
    simp at hname
  · rintro ⟨name, hname⟩
    rw [exposed, hroot, hdata] at hname
    simp at hname
  · rw [hholds.run_contains]
  · rw [hfetch]
  · rw [exposed, FileTree.node?_set (by decide), if_neg (by decide), FileTree.node?_set (by decide), if_pos rfl]
  · rw [hlast.tree.node?, if_neg (by decide), hmid.tree.node?, if_pos rfl]
    rfl
  · rw [exposed, FileTree.node?_set (by decide), if_pos rfl, Option.isSome_some]
  · rw [hlast.tree.node?, if_pos rfl]
    rfl

end TieredLedger.DirectoryStore
