import Mathlib.Data.List.Nodup
import TieredLedger.FileTree
import TieredLedger.Proofs.Text.Words

/-! Where paths lead, and what writing and removing a file change: one place, and no directory. -/
namespace TieredLedger

namespace FileTree

variable {t t' : FileTree} {p q here : Place} {path : String} {content : Bytes}

@[simp] theorem node?_nil (t : FileTree) : t.node? [] = some .directory := if_pos rfl

/-- After something is put at a place, it stands there, and elsewhere stands what stood before. -/
theorem node?_set (hp : p ≠ []) (n : FileNode) (q : Place) :
    (t.set p n).node? q = if q = p then some n else t.node? q := by
  rw [node?, node?, set]
  by_cases hq : q = []
  · subst hq
    rw [if_pos rfl, if_neg (Ne.symm hp), if_pos rfl]
  · rw [if_neg hq, if_neg hq, Std.TreeMap.getElem?_insert]
    by_cases hqp : q = p
    · subst hqp
      simp
    · rw [if_neg hqp, if_neg (by simpa using Ne.symm hqp)]

private theorem node?_erase (hp : p ≠ []) (q : Place) :
    (⟨t.nodes.erase p⟩ : FileTree).node? q = if q = p then none else t.node? q := by
  rw [node?, node?]
  by_cases hq : q = []
  · subst hq
    rw [if_pos rfl, if_neg (Ne.symm hp), if_pos rfl]
  · rw [if_neg hq, if_neg hq, Std.TreeMap.getElem?_erase]
    by_cases hqp : q = p
    · subst hqp
      simp
    · rw [if_neg hqp, if_neg (by simpa using Ne.symm hqp)]

section Names

/-- The names of a path go on after a slash. -/
theorem names_append_slash (a b : String) : names (a ++ "/" ++ b) = names a ++ names b := by
  have hlist : (a ++ "/" ++ b).toList = a.toList ++ '/' :: b.toList := by simp
  rw [names, hlist, Text.pieces_append_cons _ (by decide), List.filter_append, List.map_append]
  rfl

private theorem names_of_clear {s : String} (hs : ∀ c ∈ s.toList, c ≠ '/') (hne : s ≠ "") : names s = [s] := by
  have hlist : s.toList ≠ [] := fun h => hne (String.toList_eq_nil_iff.1 h)
  rw [names, Text.pieces_of_clear fun c hc => decide_eq_false (hs c hc)]
  simp [hlist]

/-- Names that end differently are different. -/
theorem append_ne_append {ending other : String} (hlast : ending.toList.getLast? ≠ other.toList.getLast?)
    (hne : ending ≠ "") (hother : other ≠ "") (s t : String) : s ++ ending ≠ t ++ other := by
  intro h
  have hlist : ending.toList ≠ [] := fun h => hne (String.toList_eq_nil_iff.1 h)
  have hotherList : other.toList ≠ [] := fun h => hother (String.toList_eq_nil_iff.1 h)
  have hend := congrArg (fun u : String => u.toList.getLast?) h
  rw [String.toList_append, String.toList_append, List.getLast?_append_of_ne_nil _ hlist,
    List.getLast?_append_of_ne_nil _ hotherList] at hend
  exact hlast hend

end Names

/-- The directories of a tree decide where paths lead. -/
theorem follow_of_directories (h : ∀ q, t'.node? q = some .directory ↔ t.node? q = some .directory)
    {names : List String} (hfollow : t.follow here names = .ok p) : t'.follow here names = .ok p := by
  induction names generalizing here with
  | nil => exact hfollow
  | cons name rest ih =>
    rw [follow] at hfollow ⊢
    split at hfollow
    · next hdot => rw [if_pos hdot]; exact ih hfollow
    next hdot =>
    split at hfollow
    · next hup => rw [if_neg hdot, if_pos hup]; exact ih hfollow
    next hup =>
    split at hfollow
    · cases hfollow
    next hlong =>
    rw [if_neg hdot, if_neg hup, if_neg hlong]
    dsimp only at hfollow ⊢
    split at hfollow
    · next hlast => rw [if_pos hlast]; exact hfollow
    next hlast =>
    rw [if_neg hlast]
    split at hfollow
    · cases hfollow
    · cases hfollow
    · next hdirectory =>
      rw [(h _).2 hdirectory]
      exact ih hfollow

/-- Paths lead where they led as long as the directories are the same. -/
theorem locate_of_directories (h : ∀ q, t'.node? q = some .directory ↔ t.node? q = some .directory)
    (hlocate : t.locate path = .ok p) : t'.locate path = .ok p := by
  rw [locate] at hlocate ⊢
  split at hlocate
  · cases hlocate
  next hzero =>
  split at hlocate
  · cases hlocate
  next hlong =>
  rw [if_neg hzero, if_neg hlong]
  exact follow_of_directories h hlocate

/-- Names that lead to a directory can be followed by others. -/
theorem follow_append {names more : List String} (hne : more ≠ []) (h : t.follow here names = .ok q)
    (hq : t.node? q = some .directory) : t.follow here (names ++ more) = t.follow q more := by
  induction names generalizing here with
  | nil =>
    obtain rfl := Except.ok.inj h
    rfl
  | cons name rest ih =>
    rw [follow] at h
    rw [List.cons_append, follow]
    split at h
    · next hdot => rw [if_pos hdot]; exact ih h
    next hdot =>
    split at h
    · next hup => rw [if_neg hdot, if_pos hup]; exact ih h
    next hup =>
    split at h
    · cases h
    next hlong =>
    rw [if_neg hdot, if_neg hup, if_neg hlong]
    dsimp only at h ⊢
    rw [if_neg (List.append_ne_nil_of_right_ne_nil rest hne)]
    split at h
    · next hlast =>
      subst hlast
      obtain rfl := Except.ok.inj h
      rw [hq, List.nil_append]
    · split at h
      · cases h
      · cases h
      · next hdirectory =>
        exact ih h

private theorem directory_of_follow {names more : List String} (hne : more ≠ [])
    (hhere : ∀ q, q <+: here → t.node? q = some .directory) (h : t.follow here (names ++ more) = .ok p) :
    ∃ q, t.follow here names = .ok q ∧ t.node? q = some .directory := by
  induction names generalizing here with
  | nil => exact ⟨here, rfl, hhere here List.prefix_rfl⟩
  | cons name rest ih =>
    rw [List.cons_append, follow] at h
    rw [follow]
    split at h
    · next hdot => rw [if_pos hdot]; exact ih hhere h
    next hdot =>
    split at h
    · next hup =>
      rw [if_neg hdot, if_pos hup]
      exact ih (fun q hq => hhere q (hq.trans (List.dropLast_prefix here))) h
    next hup =>
    split at h
    · cases h
    next hlong =>
    rw [if_neg hdot, if_neg hup, if_neg hlong]
    dsimp only at h ⊢
    rw [if_neg (List.append_ne_nil_of_right_ne_nil rest hne)] at h
    split at h
    · cases h
    · cases h
    next hdirectory =>
    have hnext : ∀ q, q <+: here ++ [name] → t.node? q = some .directory := by
      intro q hq
      obtain rfl | hq := List.prefix_concat_iff.1 hq
      · exact hdirectory
      · exact hhere q hq
    obtain ⟨q, hq, hnode⟩ := ih hnext h
    refine ⟨q, ?_, hnode⟩
    split
    · next hlast =>
      subst hlast
      exact hq
    · exact hq

/-- A path that goes on after a slash goes through a directory. -/
theorem exists_directory_of_locate {directory name : String} (hne : names name ≠ [])
    (h : t.locate (directory ++ "/" ++ name) = .ok p) :
    ∃ q, t.locate directory = .ok q ∧ t.node? q = some .directory := by
  rw [locate] at h ⊢
  split at h
  · cases h
  next hzero =>
  split at h
  · cases h
  next hlong =>
  have hclear : directory.toList.contains '\x00' = false := by
    rw [List.contains_eq_mem, decide_eq_false_iff_not]
    intro hmem
    apply hzero
    rw [List.contains_eq_mem, decide_eq_true_eq, String.toList_append, String.toList_append, List.append_assoc]
    exact List.mem_append_left _ hmem
  have hshort : ¬ Bytes.textSize directory ≥ maxPath := by
    rw [Bytes.textSize, String.utf8ByteSize_append, String.utf8ByteSize_append] at hlong
    rw [Bytes.textSize]
    omega
  rw [hclear, if_neg Bool.false_ne_true, if_neg hshort]
  rw [names_append_slash] at h
  refine directory_of_follow hne (fun q hq => ?_) h
  rw [List.prefix_nil.1 hq]
  exact node?_nil t

section Listing

private theorem child_iff {p q : Place} {name : String} :
    name ∈ (if q.length = p.length + 1 ∧ p.isPrefixOf q then q.getLast? else none) ↔ q = p ++ [name] := by
  rw [Option.mem_def, Option.ite_none_right_eq_some]
  constructor
  · rintro ⟨⟨hlength, hprefix⟩, hlast⟩
    obtain ⟨rest, rfl⟩ := List.isPrefixOf_iff_prefix.1 hprefix
    rw [List.length_append, Nat.add_left_cancel_iff, List.length_eq_one_iff] at hlength
    obtain ⟨last, rfl⟩ := hlength
    rw [List.getLast?_concat, Option.some.injEq] at hlast
    rw [hlast]
  · rintro rfl
    exact ⟨⟨by simp, List.isPrefixOf_iff_prefix.2 (List.prefix_append p [name])⟩, List.getLast?_concat⟩

/-- A listing of a directory has each name of a child once. -/
theorem list_of_directory (hlocate : t.locate path = .ok p) (hp : t.node? p = some .directory) :
    ∃ names, t.list path = .ok names ∧ names.Nodup ∧ ∀ name, name ∈ names ↔ (t.node? (p ++ [name])).isSome = true := by
  refine ⟨t.nodes.keys.filterMap fun q => if q.length = p.length + 1 ∧ p.isPrefixOf q then q.getLast? else none,
    ?_, ?_, fun name => ?_⟩
  · rw [list, hlocate]
    simp only [bind, Except.bind, hp]
    rfl
  · refine List.Nodup.filterMap (fun q r name hq hr => ?_) Std.TreeMap.nodup_keys
    rw [child_iff.1 hq, child_iff.1 hr]
  · simp only [List.mem_filterMap, ← Option.mem_def, child_iff, exists_eq_right, Std.TreeMap.mem_keys]
    rw [node?, if_neg (List.append_ne_nil_of_right_ne_nil p (List.cons_ne_nil name [])),
      Std.TreeMap.mem_iff_isSome_getElem?]

end Listing

section Children

variable {directory name : String}

/-- Only directories are listed. -/
theorem directory_of_list {names : List String} (h : t.list path = .ok names) :
    ∃ p, t.locate path = .ok p ∧ t.node? p = some .directory := by
  rw [list] at h
  cases hlocate : t.locate path with
  | error e =>
    rw [hlocate] at h
    cases h
  | ok p =>
    rw [hlocate] at h
    simp only [bind, Except.bind] at h
    split at h
    · cases h
    · cases h
    · next hnode => exact ⟨p, rfl, hnode⟩

private theorem follow_child (hlocate : t.locate directory = .ok q) (hq : t.node? q = some .directory)
    (hname : ∀ c ∈ name.toList, c ≠ '/') (hlong : 2 < name.length) : t.follow [] (names (directory ++ "/" ++ name)) =
      if Bytes.textSize name > maxName then .error .nameTooLong else .ok (q ++ [name]) := by
  have hne : name ≠ "" := by
    rintro rfl
    cases hlong
  have hdot : name ≠ "." := by
    rintro rfl
    exact absurd hlong (by decide)
  have hup : name ≠ ".." := by
    rintro rfl
    exact absurd hlong (by decide)
  rw [locate] at hlocate
  split at hlocate
  · cases hlocate
  split at hlocate
  · cases hlocate
  rw [names_append_slash, names_of_clear hname hne, follow_append (List.cons_ne_nil _ _) hlocate hq, follow, if_neg hdot,
    if_neg hup]
  rfl

/-- A name of a file leads from a directory to its place there. -/
theorem locate_child (hlocate : t.locate directory = .ok q) (hq : t.node? q = some .directory)
    (hname : ∀ c ∈ name.toList, c ≠ '/') (hlong : 2 < name.length) (hsize : Bytes.textSize name ≤ maxName)
    (hzero : (directory ++ "/" ++ name).toList.contains '\x00' = false)
    (hpath : Bytes.textSize (directory ++ "/" ++ name) < maxPath) :
    t.locate (directory ++ "/" ++ name) = .ok (q ++ [name]) := by
  rw [locate, hzero, if_neg Bool.false_ne_true, if_neg (Nat.not_le.2 hpath), follow_child hlocate hq hname hlong,
    if_neg (Nat.not_lt.2 hsize)]

end Children

/-- A tree that differs from another one in the file at one place only. -/
structure Changes (t : FileTree) (p : Place) (content : Option Bytes) (t' : FileTree) : Prop where
  no_directory : t.node? p ≠ some .directory
  node? : ∀ q, t'.node? q = if q = p then content.map .file else t.node? q

namespace Changes

variable {content : Option Bytes}

/-- A change of a file leaves all directories as they are. -/
theorem directories (h : Changes t p content t') (q : Place) :
    t'.node? q = some .directory ↔ t.node? q = some .directory := by
  rw [h.node? q]
  split
  · next hq =>
    subst hq
    cases content <;> simp [h.no_directory]
  · rfl

/-- Of two changes at one place the later one stays. -/
theorem trans {later : Option Bytes} {t'' : FileTree} (h : Changes t p content t') (h' : Changes t' p later t'') :
    Changes t p later t'' where
  no_directory := h.no_directory
  node? q := by
    rw [h'.node?, h.node?]
    split
    · rfl
    · rfl

/-- A change of a file does not change where paths lead. -/
theorem locate_eq_ok (h : Changes t p content t') : t'.locate path = .ok q ↔ t.locate path = .ok q :=
  ⟨locate_of_directories fun r => (h.directories r).symm, locate_of_directories h.directories⟩

end Changes

/-- A read gives the content of the file that the path leads to. -/
theorem read_eq_ok {content : Bytes} :
    t.read path = .ok content ↔ ∃ p, t.locate path = .ok p ∧ t.node? p = some (.file content) := by
  rw [read]
  cases hlocate : t.locate path with
  | error e => simp [bind, Except.bind]
  | ok p =>
    simp only [bind, Except.bind, Except.ok.injEq, exists_eq_left']
    split
    · next hnode => simp [hnode, throw, throwThe, MonadExceptOf.throw]
    · next hnode => simp [hnode, throw, throwThe, MonadExceptOf.throw]
    · next hnode => simp [hnode, pure, Except.pure]

/-- Something is there exactly if the path leads to a place where something stands. -/
theorem contains_eq_true : t.contains path = true ↔ ∃ p, t.locate path = .ok p ∧ (t.node? p).isSome = true := by
  rw [contains]
  cases hlocate : t.locate path with
  | error e => simp
  | ok p => simp

/-- A file that can be read is there. -/
theorem contains_of_read {content : Bytes} (h : t.read path = .ok content) : t.contains path = true := by
  obtain ⟨p, hlocate, hnode⟩ := read_eq_ok.1 h
  exact contains_eq_true.2 ⟨p, hlocate, by rw [hnode]; rfl⟩

/-- Writing a file changes the place where its path leads. -/
theorem changes_of_write (h : t.write path content = .ok t') :
    ∃ p, t.locate path = .ok p ∧ Changes t p (some content) t' := by
  rw [write] at h
  cases hlocate : t.locate path with
  | error e =>
    rw [hlocate] at h
    cases h
  | ok p =>
    rw [hlocate] at h
    simp only [bind, Except.bind] at h
    split at h
    · cases h
    next hdirectory =>
    obtain rfl := Except.ok.inj h
    have hp : p ≠ [] := by
      rintro rfl
      exact hdirectory (node?_nil t)
    exact ⟨p, rfl, fun hnode => hdirectory hnode, node?_set hp _⟩

/-- A file can be written where a path leads, unless a directory stands there. -/
theorem exists_write (hlocate : t.locate path = .ok p) (hnode : t.node? p ≠ some .directory) (content : Bytes) :
    ∃ t', t.write path content = .ok t' ∧ Changes t p (some content) t' := by
  have hwrite : t.write path content = .ok (t.set p (.file content)) := by
    rw [write, hlocate]
    simp only [bind, Except.bind]
    rfl
  obtain ⟨q, hq, hchanges⟩ := changes_of_write hwrite
  rw [hlocate] at hq
  obtain rfl := Except.ok.inj hq
  exact ⟨_, hwrite, hchanges⟩

/-- Removing a file empties the place where its path leads. -/
theorem changes_of_remove (h : t.remove path = .ok t') : ∃ p, t.locate path = .ok p ∧ Changes t p none t' := by
  rw [remove] at h
  cases hlocate : t.locate path with
  | error e =>
    rw [hlocate] at h
    cases h
  | ok p =>
    rw [hlocate] at h
    simp only [bind, Except.bind] at h
    split at h
    · cases h
    · cases h
    next content hnode =>
    obtain rfl := Except.ok.inj h
    have hp : p ≠ [] := by
      rintro rfl
      rw [node?_nil] at hnode
      cases hnode
    exact ⟨p, rfl, by rw [hnode]; simp, node?_erase hp⟩

/-- A file that is there can be removed. -/
theorem exists_remove (h : t.read path = .ok content) :
    ∃ p t', t.remove path = .ok t' ∧ t.locate path = .ok p ∧ Changes t p none t' := by
  obtain ⟨p, hlocate, hnode⟩ := read_eq_ok.1 h
  have hremove : t.remove path = .ok ⟨t.nodes.erase p⟩ := by
    rw [remove, hlocate]
    simp only [bind, Except.bind, hnode]
    rfl
  obtain ⟨q, hq, hchanges⟩ := changes_of_remove hremove
  rw [hlocate] at hq
  obtain rfl := Except.ok.inj hq
  exact ⟨p, _, hremove, hlocate, hchanges⟩

namespace Changes

variable {content : Option Bytes} {bytes : Bytes}

/-- What was written is what is read. -/
theorem read_here (h : Changes t p (some bytes) t') (hlocate : t.locate path = .ok p) : t'.read path = .ok bytes :=
  read_eq_ok.2 ⟨p, h.locate_eq_ok.2 hlocate, by rw [h.node?, if_pos rfl]; rfl⟩

/-- What was removed is not there. -/
theorem contains_here (h : Changes t p none t') (hlocate : t.locate path = .ok p) : t'.contains path = false := by
  have hlocated := h.locate_eq_ok.2 hlocate
  rw [contains, hlocated]
  simp only
  rw [h.node?, if_pos rfl]
  rfl

/-- What is there under other paths stays there. -/
theorem contains_elsewhere (h : Changes t p content t') (hpath : ∀ q, t.locate path = .ok q → q ≠ p) :
    t'.contains path = t.contains path := by
  rw [Bool.eq_iff_iff, contains_eq_true, contains_eq_true]
  refine exists_congr fun q => ?_
  rw [h.locate_eq_ok]
  refine and_congr_right fun hlocate => ?_
  rw [h.node?, if_neg (hpath q hlocate)]

/-- Files elsewhere stay as they are. -/
theorem read_elsewhere (h : Changes t p content t') (hpath : ∀ q, t.locate path = .ok q → q ≠ p) :
    t'.read path = .ok bytes ↔ t.read path = .ok bytes := by
  rw [read_eq_ok, read_eq_ok]
  refine exists_congr fun q => ?_
  rw [h.locate_eq_ok]
  refine and_congr_right fun hlocate => ?_
  rw [h.node?, if_neg (hpath q hlocate)]

end Changes

end FileTree

end TieredLedger
