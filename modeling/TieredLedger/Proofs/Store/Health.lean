import TieredLedger.Proofs.Store.Opening

/-! What a health check counts: the names of descriptions in their directory. -/
namespace TieredLedger.DirectoryStore

variable {s s' : DirectoryStore} {p q : Place} {names others : List String} {n : Nat} {handle : String} {kept : Bytes}
  {size : UInt64} {isSealed : Bool}

/-- The names of the descriptions in a store that a marker can be written in. -/
structure Lists (s : DirectoryStore) (p q : Place) (names : List String) : Prop where
  marker : s.tree.locate (join s.base ".health_check") = .ok p
  free : s.tree.node? p ≠ some .directory
  place : s.tree.locate (descriptionsPath s.base) = .ok q
  isDirectory : s.tree.node? q = some .directory
  nodup : names.Nodup
  mem : ∀ name, name ∈ names ↔ isDescriptionName name = true ∧ (s.tree.node? (q ++ [name])).isSome = true

private theorem node?_of_marker {content : Option Bytes} {after : FileTree} {name : String}
    (hp : s.tree.locate (join s.base ".health_check") = .ok p) (hafter : FileTree.Changes s.tree p content after)
    (hname : isDescriptionName name = true) : after.node? (q ++ [name]) = s.tree.node? (q ++ [name]) := by
  rw [hafter.node?, if_neg]
  rintro rfl
  obtain ⟨g, -, rfl⟩ := isDescriptionName_iff.1 hname
  have hlast := getLast?_of_marker hp
  rw [List.getLast?_concat, Option.some.injEq] at hlast
  exact FileTree.append_ne_append (by decide) (by decide) (by decide) _ _ hlast

private theorem Lists.of_list {content : Option Bytes} {after : FileTree}
    (hp : s.tree.locate (join s.base ".health_check") = .ok p) (hafter : FileTree.Changes s.tree p content after)
    (hnames : after.list (descriptionsPath s.base) = .ok names) :
    ∃ q, s.Lists p q (names.filter isDescriptionName) := by
  obtain ⟨q, hq, hdirectory⟩ := FileTree.directory_of_list hnames
  obtain ⟨listed, hlisted, hnodup, hmem⟩ := FileTree.list_of_directory hq hdirectory
  rw [hnames] at hlisted
  obtain rfl := Except.ok.inj hlisted
  refine ⟨q, hp, hafter.no_directory, hafter.locate_eq_ok.1 hq, (hafter.directories q).1 hdirectory,
    hnodup.filter _, fun name => ?_⟩
  rw [List.mem_filter, hmem, and_comm]
  exact and_congr_right fun hname => by rw [node?_of_marker hp hafter hname]

private theorem Lists.length_eq {p' q' : Place} (h : s.Lists p q names) (ho : s.Lists p' q' others) :
    names.length = others.length := by
  have hplace := ho.place
  rw [h.place] at hplace
  obtain rfl := Except.ok.inj hplace
  have hperm : List.Perm names others :=
    (List.perm_ext_iff_of_nodup h.nodup ho.nodup).2 fun name => (h.mem name).trans (ho.mem name).symm
  exact hperm.length_eq

private theorem Lists.contains_base (h : s.Lists p q names) : s.tree.contains s.base = true := by
  have hname : FileTree.names ".health_check" ≠ [] := by decide
  have hmarker := h.marker
  rw [join, if_neg (by decide)] at hmarker
  obtain ⟨r, hr, hdirectory⟩ := FileTree.exists_directory_of_locate hname hmarker
  exact FileTree.contains_eq_true.2 ⟨r, hr, by rw [hdirectory]; rfl⟩

/-- A health check that works tells the number of descriptions. -/
theorem run_health_eq_good : (health.run s).1 = .ok (.good n) ↔ ∃ p q names, s.Lists p q names ∧ n = names.length := by
  rw [run_health]
  constructor
  · intro h
    split at h
    · cases h
    split at h
    · cases h
    next tree hwrite =>
    obtain ⟨p, content, hp, hafter⟩ := changes_of_marker hwrite
    dsimp only at h
    split at h
    · cases h
    next names hnames =>
    obtain ⟨q, hlists⟩ := Lists.of_list hp hafter hnames
    cases h
    exact ⟨p, q, _, hlists, rfl⟩
  · rintro ⟨p, q, names, hlists, rfl⟩
    obtain ⟨tree, hwrite, -⟩ := FileTree.exists_write hlists.marker hlists.free (Bytes.ofText "health_check")
    obtain ⟨r, content, hr, hafter⟩ := changes_of_marker hwrite
    obtain ⟨listed, hlisted, -⟩ := FileTree.list_of_directory (hafter.locate_eq_ok.2 hlists.place)
      ((hafter.directories q).2 hlists.isDirectory)
    obtain ⟨q', hlists'⟩ := Lists.of_list hr hafter hlisted
    rw [hlists.contains_base, if_neg Bool.true_eq_false_eq_False, hwrite]
    simp only [hlisted, hlists.length_eq hlists']

namespace Lists

/-- The description of a blob stands in the directory that is listed. -/
theorem locate_description (h : s.Lists p q names) (hname : Handle.IsName handle)
    (hholds : s.Holds handle kept size isSealed) :
    s.tree.locate (descriptionPath s.base handle) = .ok (q ++ [handle ++ ".json"]) ∧
      (s.tree.node? (q ++ [handle ++ ".json"])).isSome = true := by
  obtain ⟨d, hd, -⟩ := hholds.described
  obtain ⟨r, bytes, hr, hnode⟩ := exists_place_of_described hd
  obtain rfl := place_of_description h.place hname hr
  exact ⟨hr, by rw [hnode]; rfl⟩

/-- The description of a blob is listed. -/
theorem mem_description (h : s.Lists p q names) (hname : Handle.IsName handle) (hne : handle ≠ "")
    (hholds : s.Holds handle kept size isSealed) : handle ++ ".json" ∈ names :=
  (h.mem _).2 ⟨isDescriptionName_iff.2 ⟨handle, hne, rfl⟩, (h.locate_description hname hholds).2⟩

/-- Whatever happens to the files of a blob, what is counted besides stays the same. -/
theorem of_within (h : s.Lists p q names) (hne : handle ≠ "")
    (hplace : s.tree.locate (descriptionPath s.base handle) = .ok (q ++ [handle ++ ".json"]))
    (hwithin : Within s handle s') :
    s'.Lists p q (if s'.tree.contains (descriptionPath s'.base handle) = true then names.insert (handle ++ ".json")
      else names.erase (handle ++ ".json")) := by
  have hcontains : s'.tree.contains (descriptionPath s'.base handle) =
      (s'.tree.node? (q ++ [handle ++ ".json"])).isSome := by
    rw [FileTree.contains, hwithin.base, hwithin.locate_eq_ok.2 hplace]
  have hothers : ∀ name, name ≠ handle ++ ".json" →
      (name ∈ names ↔ isDescriptionName name = true ∧ (s'.tree.node? (q ++ [name])).isSome = true) := by
    intro name hother
    rw [h.mem]
    refine and_congr_right fun hdescription => ?_
    rw [hwithin.others]
    · intro hblob
      obtain ⟨g, -, rfl⟩ := isDescriptionName_iff.1 hdescription
      have hlast := getLast?_of_blobPath hblob
      rw [List.getLast?_concat, Option.some.injEq] at hlast
      exact FileTree.append_ne_append (by decide) (by decide) (by decide) _ _ hlast
    · intro hsame
      rw [hplace, Except.ok.injEq, List.append_cancel_left_eq, List.singleton_inj] at hsame
      exact hother hsame.symm
  refine ⟨?_, ?_, ?_, ?_, ?_, fun name => ?_⟩
  · rw [hwithin.base]
    exact hwithin.locate_eq_ok.2 h.marker
  · exact fun hdirectory => h.free ((hwithin.directories p).1 hdirectory)
  · rw [hwithin.base]
    exact hwithin.locate_eq_ok.2 h.place
  · exact (hwithin.directories q).2 h.isDirectory
  · split
    · exact h.nodup.insert
    · exact h.nodup.erase _
  · rw [hcontains]
    by_cases hself : name = handle ++ ".json"
    · subst hself
      have hdescription : isDescriptionName (handle ++ ".json") = true := isDescriptionName_iff.2 ⟨handle, hne, rfl⟩
      rw [and_iff_right hdescription]
      split
      · next hthere => exact iff_of_true List.mem_insert_self hthere
      · next hgone => exact iff_of_false (h.nodup.not_mem_erase) hgone
    · rw [← hothers name hself]
      split
      · rw [List.mem_insert_iff, or_iff_right hself]
      · rw [h.nodup.mem_erase_iff, and_iff_right hself]

end Lists

/-- A store that was just opened has no descriptions. -/
theorem lists_opened (draws : Nat → Draw) : (opened draws).Lists ["s", ".health_check"] ["s", "meta"] [] where
  marker := by
    change openedTree.locate (join "/s" ".health_check") = _
    decide +kernel
  free := by
    change openedTree.node? _ ≠ _
    decide +kernel
  place := (isOpen_opened draws).descriptions
  isDirectory := (isOpen_opened draws).descriptions_directory
  nodup := List.nodup_nil
  mem name := by
    rw [List.cons_append, List.cons_append, List.nil_append, node?_opened]
    simp

end TieredLedger.DirectoryStore
