import Mathlib.Data.List.Induction
import TieredLedger.Proofs.FileTree

/-! The place that a path spells by itself, with its dots resolved. If a path leads anywhere, it leads there. -/
namespace TieredLedger.FileTree

variable {t : FileTree} {here p : Place} {path : String}

/-- Where names lead from a place, whatever stands there: a single dot stays, and two dots lead up. -/
def walk (here : Place) : List String → Place
  | [] => here
  | name :: rest =>
    if name = "." then walk here rest
    else if name = ".." then walk here.dropLast rest
    else walk (here ++ [name]) rest

def resolved (path : String) : Place := walk [] (names path)

private theorem walk_append (here : Place) (before after : List String) :
    walk here (before ++ after) = walk (walk here before) after := by
  induction before generalizing here with
  | nil => rfl
  | cons name before ih =>
    rw [List.cons_append, walk, walk]
    split
    · exact ih here
    split
    · exact ih here.dropLast
    · exact ih (here ++ [name])

private theorem walk_name {name : String} (hdot : name ≠ ".") (hup : name ≠ "..") :
    walk here [name] = here ++ [name] := by
  rw [walk, if_neg hdot, if_neg hup, walk]

/-- Names that stay above what they have added lead to the same names below every place. Others lead above the place,
and from its siblings to the same place. -/
theorem walk_cases (names : List String) (added : Place) :
    (∃ rest, ∀ here, walk (here ++ added) names = here ++ rest) ∨
      ∀ parent x y, walk (parent ++ [x] ++ added) names = walk (parent ++ [y] ++ added) names := by
  induction names generalizing added with
  | nil => exact Or.inl ⟨added, fun _ => rfl⟩
  | cons name names ih =>
    simp only [walk]
    by_cases hdot : name = "."
    · simp only [if_pos hdot]
      exact ih added
    simp only [if_neg hdot]
    by_cases hup : name = ".."
    · simp only [if_pos hup]
      cases added using List.reverseRecOn with
      | nil =>
        right
        intro parent x y
        rw [List.append_nil, List.append_nil, List.dropLast_concat, List.dropLast_concat]
      | append_singleton added last =>
        simp only [← List.append_assoc, List.dropLast_concat]
        exact ih added
    · simp only [if_neg hup, List.append_assoc]
      simpa only [List.append_assoc] using ih (added ++ [name])

/-- Names that lead back to two siblings lead back from everywhere. -/
theorem walk_eq_of_siblings {names : List String} {parent : Place} {x y : String} (hne : x ≠ y)
    (hx : walk (parent ++ [x]) names = parent ++ [x]) (hy : walk (parent ++ [y]) names = parent ++ [y]) (here : Place) :
    walk here names = here := by
  rcases walk_cases names [] with ⟨rest, hrest⟩ | hsame
  · simp only [List.append_nil] at hrest
    rw [hrest] at hx
    rw [hrest, List.append_right_eq_self.1 hx, List.append_nil]
  · have hxy := hsame parent x y
    rw [List.append_nil, List.append_nil, hx, hy] at hxy
    exact absurd (List.cons.inj (List.append_cancel_left hxy)).1 hne

private theorem eq_walk_of_follow {names : List String} (h : t.follow here names = .ok p) : p = walk here names := by
  induction names generalizing here with
  | nil => exact (Except.ok.inj h).symm
  | cons name rest ih =>
    rw [follow] at h
    rw [walk]
    split at h
    · next hdot => rw [if_pos hdot, ih h]
    next hdot =>
    rw [if_neg hdot]
    split at h
    · next hup => rw [if_pos hup, ih h]
    next hup =>
    rw [if_neg hup]
    split at h
    · cases h
    dsimp only at h
    split at h
    · next hlast =>
      rw [hlast, walk, Except.ok.inj h]
    · split at h
      · cases h
      · cases h
      · exact ih h

/-- A path that leads somewhere leads to the place that it spells. -/
theorem eq_resolved_of_locate (h : t.locate path = .ok p) : p = resolved path := by
  rw [locate] at h
  split at h
  · cases h
  split at h
  · cases h
  · exact eq_walk_of_follow h

/-- The names after a slash are followed from where the path before it leads. -/
theorem resolved_append_slash (a b : String) : resolved (a ++ "/" ++ b) = walk (resolved a) (names b) := by
  rw [resolved, names_append_slash, walk_append, resolved]

def lastName (path : String) : String := String.ofList ((Text.pieces (· = '/') path.toList).getLastD [])

/-- Without a slash the whole path is its last name. -/
theorem lastName_of_clear {s : String} (hs : ∀ c ∈ s.toList, c ≠ '/') : lastName s = s := by
  rw [lastName, Text.pieces_of_clear fun c hc => decide_eq_false (hs c hc)]
  exact String.ofList_toList

def leadingNames (path : String) : List String :=
  ((Text.pieces (· = '/') path.toList).dropLast.filter fun name => !name.isEmpty).map String.ofList

/-- Without a slash no names lead up to the last. -/
theorem leadingNames_of_clear {s : String} (hs : ∀ c ∈ s.toList, c ≠ '/') : leadingNames s = [] := by
  rw [leadingNames, Text.pieces_of_clear fun c hc => decide_eq_false (hs c hc)]
  rfl

/-- What is added at the end of a path belongs to its last name, and the names before it stay. -/
theorem names_append (path : String) {ending : String} (hending : ∀ c ∈ ending.toList, c ≠ '/') (hne : ending ≠ "") :
    names (path ++ ending) = leadingNames path ++ [lastName path ++ ending] := by
  have hlist : ending.toList ≠ [] := fun h => hne (String.toList_eq_nil_iff.1 h)
  obtain ⟨before, last, hpath, happend⟩ := Text.pieces_append_clear path.toList
    (fun c hc => decide_eq_false (hending c hc) : ∀ c ∈ ending.toList, decide (c = '/') = false)
  rw [names, leadingNames, lastName, String.toList_append, happend, hpath, List.filter_append, List.map_append]
  simp [hlist, String.ofList_append]

/-- An ending goes to the last name of a path, which is then the name of a child. -/
theorem walk_names_append (here : Place) (path : String) {ending : String} (hending : ∀ c ∈ ending.toList, c ≠ '/')
    (hlong : 2 < ending.length) :
    walk here (names (path ++ ending)) = walk here (leadingNames path) ++ [lastName path ++ ending] := by
  have hne : ending ≠ "" := by
    rintro rfl
    cases hlong
  have hname : 2 < (lastName path ++ ending).length := by
    rw [String.length_append]
    omega
  rw [names_append path hending hne, walk_append, walk_name]
  · intro hdot
    rw [hdot] at hname
    exact absurd hname (by decide)
  · intro hup
    rw [hup] at hname
    exact absurd hname (by decide)

section Comparison

variable {t' u u' : FileTree} {places : List Place} {content : Option Bytes}

/-- Trees with the same directories and with the same at some places. -/
structure Alike (places : List Place) (t t' : FileTree) : Prop where
  directories : ∀ q, t'.node? q = some .directory ↔ t.node? q = some .directory
  node? : ∀ q ∈ places, t'.node? q = t.node? q

namespace Alike

/-- In trees that are alike, paths lead to the same places. -/
theorem locate_eq_ok (h : Alike places t t') : t'.locate path = .ok p ↔ t.locate path = .ok p :=
  ⟨locate_of_directories fun q => (h.directories q).symm, locate_of_directories h.directories⟩

/-- Trees that are alike at the place that a path spells have the same there. -/
theorem contains (h : Alike places t t') (hpath : resolved path ∈ places) : t'.contains path = t.contains path := by
  rw [Bool.eq_iff_iff, contains_eq_true, contains_eq_true]
  refine exists_congr fun p => ?_
  rw [h.locate_eq_ok]
  refine and_congr_right fun hp => ?_
  rw [eq_resolved_of_locate hp, h.node? _ hpath]

private theorem place_of_contains (h : Alike places t t') (hpath : resolved path ∈ places)
    (hthere : t.contains path = true) :
    ∃ p n, t.locate path = .ok p ∧ t'.locate path = .ok p ∧ t.node? p = some n ∧ t'.node? p = some n := by
  obtain ⟨p, hp, hnode⟩ := contains_eq_true.1 hthere
  obtain ⟨n, hn⟩ := Option.isSome_iff_exists.1 hnode
  refine ⟨p, n, hp, h.locate_eq_ok.2 hp, hn, ?_⟩
  rw [eq_resolved_of_locate hp] at hn ⊢
  rw [h.node? _ hpath, hn]

/-- In trees that are alike, the files at the common places are read alike. -/
theorem read (h : Alike places t t') (hpath : resolved path ∈ places) (hthere : t.contains path = true) :
    t'.read path = t.read path := by
  obtain ⟨p, n, hp, hp', hn, hn'⟩ := h.place_of_contains hpath hthere
  rw [FileTree.read, FileTree.read, hp, hp']
  simp only [bind, Except.bind, hn, hn']

/-- In trees that are alike, the texts at the common places are read alike. -/
theorem readText (h : Alike places t t') (hpath : resolved path ∈ places) (hthere : t.contains path = true) :
    t'.readText path = t.readText path := by
  rw [FileTree.readText, FileTree.readText, h.read hpath hthere]

/-- One change keeps trees alike. -/
theorem changes (h : Alike places t t') (hchanges : Changes t p content u) (hchanges' : Changes t' p content u') :
    Alike places u u' where
  directories q := by
    rw [hchanges'.directories, h.directories, hchanges.directories]
  node? q hq := by
    rw [hchanges'.node?, hchanges.node?, h.node? q hq]

/-- A file is removed from both trees or from none. -/
theorem remove (h : Alike places t t') (hpath : resolved path ∈ places) (hthere : t.contains path = true) :
    (∃ cause, t.remove path = .error cause ∧ t'.remove path = .error cause) ∨
      ∃ u u', t.remove path = .ok u ∧ t'.remove path = .ok u' ∧ Alike places u u' := by
  obtain ⟨p, n, hp, hp', hn, hn'⟩ := h.place_of_contains hpath hthere
  cases n with
  | directory =>
    refine Or.inl ⟨.isADirectory, ?_, ?_⟩
    · rw [FileTree.remove, hp]
      simp only [bind, Except.bind, hn]
      rfl
    · rw [FileTree.remove, hp']
      simp only [bind, Except.bind, hn']
      rfl
  | file content =>
    obtain ⟨q, u, hremove, hq, hchanges⟩ := exists_remove (read_eq_ok.2 ⟨p, hp, hn⟩)
    obtain ⟨q', u', hremove', hq', hchanges'⟩ := exists_remove (read_eq_ok.2 ⟨p, hp', hn'⟩)
    obtain rfl := Except.ok.inj (hq.symm.trans hp)
    obtain rfl := Except.ok.inj (hq'.symm.trans hp')
    exact Or.inr ⟨u, u', hremove, hremove', h.changes hchanges hchanges'⟩

end Alike

end Comparison

end TieredLedger.FileTree
