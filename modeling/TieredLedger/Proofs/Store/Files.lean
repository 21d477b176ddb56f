import TieredLedger.Proofs.FileTree.Resolution
import TieredLedger.Proofs.Store.Directory
import TieredLedger.Proofs.Store.Handle

/-! The files of a store in a directory: bytes, descriptions and the marker of a health check never share a place, and
neither do the files of different names. -/
namespace TieredLedger.DirectoryStore

open FileTree (walk resolved leadingNames lastName)

variable {s s' : DirectoryStore} {t : FileTree} {base directory g h handle : String} {p q : Place} {d : Description}
  {kept bytes : Bytes} {content : Option Bytes}

section Places

def start (directory : Place) (g : String) : Place := if g.toList.head? = some '/' then [] else directory

/-- The files of a handle stand where its leading names go, under its last name with their ending. -/
theorem resolved_join (directory g : String) {ending : String} (hending : ∀ c ∈ ending.toList, c ≠ '/')
    (hlong : 2 < ending.length) : resolved (join directory (g ++ ending)) =
      walk (start (resolved directory) g) (leadingNames g) ++ [lastName g ++ ending] := by
  have hhead : (g ++ ending).toList.head? = some '/' ↔ g.toList.head? = some '/' := by
    rw [String.toList_append]
    cases g.toList with
    | nil => exact iff_of_false (fun h => hending '/' (List.mem_of_mem_head? h) rfl) (by decide)
    | cons c cs => rfl
  rw [join, start, ← FileTree.walk_names_append _ g hending hlong]
  by_cases hroot : g.toList.head? = some '/'
  · rw [if_pos (hhead.2 hroot), if_pos hroot, resolved]
  · rw [if_neg fun h => hroot (hhead.1 h), if_neg hroot, FileTree.resolved_append_slash]

private theorem getLast?_of_locate_join {ending : String} (hending : ∀ c ∈ ending.toList, c ≠ '/')
    (hlong : 2 < ending.length) (hlocate : t.locate (join directory (g ++ ending)) = .ok p) :
    p.getLast? = some (lastName g ++ ending) := by
  rw [FileTree.eq_resolved_of_locate hlocate, resolved_join directory g hending hlong, List.getLast?_concat]

/-- The file of the bytes has the last name of the handle. -/
theorem getLast?_of_blobPath (hlocate : t.locate (blobPath base g) = .ok p) :
    p.getLast? = some (lastName g ++ ".dat") :=
  getLast?_of_locate_join (List.forall_mem_ne'.2 (by decide)) (by decide) hlocate

private theorem getLast?_of_descriptionPath (hlocate : t.locate (descriptionPath base g) = .ok p) :
    p.getLast? = some (lastName g ++ ".json") :=
  getLast?_of_locate_join (List.forall_mem_ne'.2 (by decide)) (by decide) hlocate

/-- The marker keeps its name. -/
theorem getLast?_of_marker (hlocate : t.locate (join base ".health_check") = .ok p) :
    p.getLast? = some (lastName "" ++ ".health_check") := by
  have hpath : ("" : String) ++ ".health_check" = ".health_check" := String.empty_append
  rw [← hpath] at hlocate
  exact getLast?_of_locate_join (List.forall_mem_ne'.2 (by decide)) (by decide) hlocate

/-- No bytes stand where a description stands, whatever the handles are. -/
theorem blob_ne_description (hp : t.locate (blobPath base g) = .ok p)
    (hq : t.locate (descriptionPath base h) = .ok q) : p ≠ q := by
  rintro rfl
  have hname := (getLast?_of_blobPath hp).symm.trans (getLast?_of_descriptionPath hq)
  exact FileTree.append_ne_append (by decide) (by decide) (by decide) _ _ (Option.some.inj hname)

/-- No bytes stand where the marker stands. -/
theorem blob_ne_marker (hp : t.locate (blobPath base g) = .ok p) (hq : t.locate (join base ".health_check") = .ok q) :
    p ≠ q := by
  rintro rfl
  have hname := (getLast?_of_blobPath hp).symm.trans (getLast?_of_marker hq)
  exact FileTree.append_ne_append (by decide) (by decide) (by decide) _ _ (Option.some.inj hname)

/-- No description stands where the marker stands. -/
theorem description_ne_marker (hp : t.locate (descriptionPath base g) = .ok p)
    (hq : t.locate (join base ".health_check") = .ok q) : p ≠ q := by
  rintro rfl
  have hname := (getLast?_of_descriptionPath hp).symm.trans (getLast?_of_marker hq)
  exact FileTree.append_ne_append (by decide) (by decide) (by decide) _ _ (Option.some.inj hname)

/-- Handles that are names have bytes in places of their own. -/
theorem blob_ne_blob (hg : Handle.IsName g) (hh : Handle.IsName h) (hne : g ≠ h)
    (hp : t.locate (blobPath base g) = .ok p) (hq : t.locate (blobPath base h) = .ok q) : p ≠ q := by
  rintro rfl
  have hname := (getLast?_of_blobPath hp).symm.trans (getLast?_of_blobPath hq)
  rw [FileTree.lastName_of_clear hg, FileTree.lastName_of_clear hh, Option.some.injEq, String.append_left_inj] at hname
  exact hne hname

/-- Handles that are names have descriptions in places of their own. -/
theorem description_ne_description (hg : Handle.IsName g) (hh : Handle.IsName h) (hne : g ≠ h)
    (hp : t.locate (descriptionPath base g) = .ok p) (hq : t.locate (descriptionPath base h) = .ok q) : p ≠ q := by
  rintro rfl
  have hname := (getLast?_of_descriptionPath hp).symm.trans (getLast?_of_descriptionPath hq)
  rw [FileTree.lastName_of_clear hg, FileTree.lastName_of_clear hh, Option.some.injEq, String.append_left_inj] at hname
  exact hne hname

/-- The description of a name is a child of the directory of descriptions. -/
theorem place_of_description (hlocate : t.locate (descriptionsPath base) = .ok q) (hg : Handle.IsName g)
    (hp : t.locate (descriptionPath base g) = .ok p) : p = q ++ [g ++ ".json"] := by
  have hending : ∀ c ∈ ".json".toList, c ≠ '/' := List.forall_mem_ne'.2 (by decide)
  have hhead : g.toList.head? ≠ some '/' := fun h => hg '/' (List.mem_of_mem_head? h) rfl
  rw [FileTree.eq_resolved_of_locate hp, FileTree.eq_resolved_of_locate hlocate, descriptionPath,
    resolved_join _ g hending (by decide), start, if_neg hhead, FileTree.leadingNames_of_clear hg, walk,
    FileTree.lastName_of_clear hg]

/-- The name of a description is a handle with its ending. -/
theorem isDescriptionName_iff {name : String} : isDescriptionName name = true ↔ ∃ g, g ≠ "" ∧ name = g ++ ".json" := by
  have hending : ".json".toList.length = 5 := by decide
  rw [isDescriptionName, Bool.and_eq_true, decide_eq_true_eq, beq_iff_eq]
  constructor
  · rintro ⟨hlong, hdrop⟩
    refine ⟨String.ofList (name.toList.take (name.length - 5)), ?_, ?_⟩
    · rw [ne_eq, ← String.toList_eq_nil_iff, String.toList_ofList, List.take_eq_nil_iff, String.toList_eq_nil_iff]
      rintro (hzero | rfl)
      · omega
      · cases hlong
    · rw [← String.toList_inj, String.toList_append, String.toList_ofList, ← hdrop, List.take_append_drop]
  · rintro ⟨g, hg, rfl⟩
    have hlength : (g ++ ".json").length - 5 = g.toList.length := by
      rw [← String.length_toList, String.toList_append, List.length_append, hending, Nat.add_sub_cancel]
    have hpos : 0 < g.toList.length := List.length_pos_iff.2 fun h => hg (String.toList_eq_nil_iff.1 h)
    refine ⟨by omega, ?_⟩
    rw [hlength, String.toList_append, List.drop_left]

/-- A store over a directory that is there, with nothing in the place of its descriptions. -/
def IsEmpty (s : DirectoryStore) : Prop :=
  ∃ p, s.tree.locate (descriptionsPath s.base) = .ok p ∧ s.tree.node? p = some .directory ∧
    ∀ name, s.tree.node? (p ++ [name]) = none

end Places

section Found

/-- The bytes kept for a handle are those in its file. -/
theorem keptAt_eq_ok : s.keptAt g = .ok kept ↔ s.tree.read (blobPath s.base g) = .ok kept := by
  rw [keptAt]
  constructor
  · intro h
    split at h
    · cases h
    · split at h
      · cases h
      · next hread => rw [hread, Except.ok.inj h]
  · intro h
    rw [FileTree.contains_of_read h, if_neg (by decide), h]

private theorem readText_eq_ok {path text : String} : t.readText path = .ok text ↔
    ∃ bytes, t.read path = .ok bytes ∧ Utf8.decode bytes = .ok text := by
  rw [FileTree.readText]
  cases t.read path with
  | error e => simp [bind, Except.bind]
  | ok bytes =>
    simp only [bind, Except.bind, Except.ok.injEq, exists_eq_left']
    cases Utf8.decode bytes with
    | error fault => simp [throw, throwThe, MonadExceptOf.throw]
    | ok text => simp [pure, Except.pure]

def descriptionIn? (bytes : Bytes) : Option Description := (Utf8.text? bytes).bind Description.read?

@[simp] theorem descriptionIn?_write (d : Description) : descriptionIn? (Bytes.ofText d.write) = some d.settled := by
  rw [descriptionIn?, Utf8.text?, Utf8.decode_ofText, Except.toOption, Option.bind_some, Description.read?_write]

/-- The description of a handle is what its file can be read as. -/
theorem described_eq_ok : s.described g = .ok d ↔
    ∃ bytes, s.tree.read (descriptionPath s.base g) = .ok bytes ∧ descriptionIn? bytes = some d := by
  rw [described]
  constructor
  · intro h
    split at h
    · cases h
    split at h
    · cases h
    next text htext =>
    split at h
    · next d' hread =>
      obtain ⟨bytes, hbytes, hdecode⟩ := readText_eq_ok.1 htext
      refine ⟨bytes, hbytes, ?_⟩
      rw [descriptionIn?, Utf8.text?, hdecode, ← Except.ok.inj h]
      exact hread
    · cases h
  · rintro ⟨bytes, hbytes, hin⟩
    obtain ⟨text, htext, hread⟩ := Option.bind_eq_some_iff.1 hin
    have hdecode : Utf8.decode bytes = .ok text := by
      rw [Utf8.text?] at htext
      cases hdecode : Utf8.decode bytes with
      | error fault =>
        rw [hdecode] at htext
        cases htext
      | ok other =>
        rw [hdecode] at htext
        rw [Option.some.inj htext]
    rw [FileTree.contains_of_read hbytes, if_neg (by decide), readText_eq_ok.2 ⟨bytes, hbytes, hdecode⟩]
    simp only [hread]

/-- A handle without a file of bytes is unknown. -/
theorem keptAt_of_missing (h : s.tree.contains (blobPath s.base g) = false) :
    s.keptAt g = .error (.unknownHandle g) := by
  rw [keptAt, if_pos h]

/-- A handle without a description is unknown. -/
theorem described_of_missing (h : s.tree.contains (descriptionPath s.base g) = false) :
    s.described g = .error (.unknownHandle g) := by
  rw [described, if_pos h]

/-- What is on record for a checksum is a description that names it. -/
theorem recorded_eq_some {checksum : String} :
    s.recorded g checksum = some d ↔ s.described g = .ok d ∧ d.checksum = checksum := by
  rw [recorded]
  cases s.described g with
  | error e => simp
  | ok other =>
    simp only [Option.ite_none_right_eq_some, Option.some.injEq, Except.ok.injEq]
    constructor
    · rintro ⟨hsum, rfl⟩
      exact ⟨rfl, hsum⟩
    · rintro ⟨rfl, hsum⟩
      exact ⟨hsum, rfl⟩

/-- An empty store describes nothing under a name. -/
theorem IsEmpty.described_ne_ok (h : s.IsEmpty) (hg : Handle.IsName g) (d : Description) : s.described g ≠ .ok d := by
  obtain ⟨p, hplace, -, hempty⟩ := h
  intro hd
  obtain ⟨bytes, hread, -⟩ := described_eq_ok.1 hd
  obtain ⟨q, hq, hnode⟩ := FileTree.read_eq_ok.1 hread
  rw [place_of_description hplace hg hq, hempty] at hnode
  cases hnode

end Found

section Changes

/-- A store that differs from another one in the file at one place, and perhaps in the draws. -/
structure Differs (s : DirectoryStore) (p : Place) (content : Option Bytes) (s' : DirectoryStore) : Prop where
  base : s'.base = s.base
  tree : FileTree.Changes s.tree p content s'.tree

namespace Differs

/-- A change of a file does not change where paths lead. -/
theorem locate_eq_ok {path : String} (h : Differs s p content s') :
    s'.tree.locate path = .ok q ↔ s.tree.locate path = .ok q :=
  h.tree.locate_eq_ok

/-- Bytes that were written are the ones kept. -/
theorem keptAt_here (h : Differs s p (some bytes) s') (hlocate : s.tree.locate (blobPath s.base g) = .ok p) :
    s'.keptAt g = .ok bytes := by
  rw [keptAt_eq_ok, h.base]
  exact h.tree.read_here hlocate

/-- The bytes in other places are kept as they were. -/
theorem keptAt_elsewhere (h : Differs s p content s')
    (hplace : ∀ q, s.tree.locate (blobPath s.base g) = .ok q → q ≠ p) :
    s'.keptAt g = .ok kept ↔ s.keptAt g = .ok kept := by
  rw [keptAt_eq_ok, keptAt_eq_ok, h.base, h.tree.read_elsewhere hplace]

/-- A description that was written is the one on record, as its text is read. -/
theorem described_here (h : Differs s p (some (Bytes.ofText d.write)) s')
    (hlocate : s.tree.locate (descriptionPath s.base g) = .ok p) : s'.described g = .ok d.settled := by
  rw [described_eq_ok, h.base]
  exact ⟨_, h.tree.read_here hlocate, descriptionIn?_write d⟩

/-- The descriptions in other places are on record as they were. -/
theorem described_elsewhere (h : Differs s p content s')
    (hplace : ∀ q, s.tree.locate (descriptionPath s.base g) = .ok q → q ≠ p) :
    s'.described g = .ok d ↔ s.described g = .ok d := by
  rw [described_eq_ok, described_eq_ok, h.base]
  refine exists_congr fun bytes => ?_
  rw [h.tree.read_elsewhere hplace]

end Differs

/-- A store that differs from another one only in the files of a handle, and perhaps in the draws. -/
structure Within (s : DirectoryStore) (g : String) (s' : DirectoryStore) : Prop where
  base : s'.base = s.base
  directories : ∀ q, s'.tree.node? q = some .directory ↔ s.tree.node? q = some .directory
  others : ∀ q, s.tree.locate (blobPath s.base g) ≠ .ok q → s.tree.locate (descriptionPath s.base g) ≠ .ok q →
    s'.tree.node? q = s.tree.node? q

namespace Within

/-- A store differs from itself in no file at all. -/
theorem refl (s : DirectoryStore) (g : String) : Within s g s := ⟨rfl, fun _ => Iff.rfl, fun _ _ _ => rfl⟩

/-- Changes to the files of a handle do not change where paths lead. -/
theorem locate_eq_ok {path : String} (h : Within s g s') :
    s'.tree.locate path = .ok q ↔ s.tree.locate path = .ok q :=
  ⟨FileTree.locate_of_directories fun r => (h.directories r).symm, FileTree.locate_of_directories h.directories⟩

/-- Changes to the files of a handle add up. -/
theorem trans {s'' : DirectoryStore} (h : Within s g s') (h' : Within s' g s'') : Within s g s'' where
  base := h'.base.trans h.base
  directories q := (h'.directories q).trans (h.directories q)
  others q hblob hdescription := by
    refine (h'.others q ?_ ?_).trans (h.others q hblob hdescription)
    · rw [h.base]
      exact fun hq => hblob (h.locate_eq_ok.1 hq)
    · rw [h.base]
      exact fun hq => hdescription (h.locate_eq_ok.1 hq)

/-- A change of one file of a handle is within its files. -/
theorem of_differs (h : Differs s p content s')
    (hp : s.tree.locate (blobPath s.base g) = .ok p ∨ s.tree.locate (descriptionPath s.base g) = .ok p) :
    Within s g s' where
  base := h.base
  directories := h.tree.directories
  others q hblob hdescription := by
    rw [h.tree.node?, if_neg]
    rintro rfl
    exact hp.elim hblob hdescription

/-- Other files are read as before. -/
theorem read_eq_ok {path : String} (h : Within s g s')
    (hpath : ∀ q, s.tree.locate path = .ok q → s.tree.locate (blobPath s.base g) ≠ .ok q ∧
      s.tree.locate (descriptionPath s.base g) ≠ .ok q) :
    s'.tree.read path = .ok bytes ↔ s.tree.read path = .ok bytes := by
  rw [FileTree.read_eq_ok, FileTree.read_eq_ok]
  refine exists_congr fun q => ?_
  rw [h.locate_eq_ok]
  refine and_congr_right fun hq => ?_
  rw [h.others q (hpath q hq).1 (hpath q hq).2]

end Within

/-- Handles that share a file. -/
def Aliases (s : DirectoryStore) (g h : String) : Prop :=
  ∃ q, (s.tree.locate (blobPath s.base g) = .ok q ∧ s.tree.locate (blobPath s.base h) = .ok q) ∨
    (s.tree.locate (descriptionPath s.base g) = .ok q ∧ s.tree.locate (descriptionPath s.base h) = .ok q)

/-- Different names share no file. -/
theorem not_aliases (hg : Handle.IsName g) (hh : Handle.IsName h) (hne : g ≠ h) : ¬ s.Aliases g h := by
  rintro ⟨q, ⟨hp, hq⟩ | ⟨hp, hq⟩⟩
  · exact blob_ne_blob hg hh hne hp hq rfl
  · exact description_ne_description hg hh hne hp hq rfl

/-- Handles that lead to one file have one description. -/
theorem described_of_same_place (hp : s.tree.locate (descriptionPath s.base g) = .ok p)
    (hq : s.tree.locate (descriptionPath s.base h) = .ok p) : s.described g = .ok d ↔ s.described h = .ok d := by
  rw [described_eq_ok, described_eq_ok]
  refine exists_congr fun bytes => and_congr_left fun _ => ?_
  rw [FileTree.read_eq_ok, FileTree.read_eq_ok, hp, hq]

/-- Handles with one place for their bytes have the same bytes. -/
theorem keptAt_of_same_place (hp : s.tree.locate (blobPath s.base g) = .ok p)
    (hq : s.tree.locate (blobPath s.base h) = .ok p) : s.keptAt g = .ok kept ↔ s.keptAt h = .ok kept := by
  rw [keptAt_eq_ok, keptAt_eq_ok, FileTree.read_eq_ok, FileTree.read_eq_ok, hp, hq]

/-- The place of a description that is found. -/
theorem exists_place_of_described (hd : s.described g = .ok d) : ∃ p bytes,
    s.tree.locate (descriptionPath s.base g) = .ok p ∧ s.tree.node? p = some (.file bytes) := by
  obtain ⟨bytes, hread, -⟩ := described_eq_ok.1 hd
  obtain ⟨p, hp, hnode⟩ := FileTree.read_eq_ok.1 hread
  exact ⟨p, bytes, hp, hnode⟩

end Changes

end TieredLedger.DirectoryStore
