import TieredLedger.Proofs.Store.Stored

/-! A store that is open accepts data under every handle that makes a short enough name. -/
namespace TieredLedger.DirectoryStore

variable {s s' : DirectoryStore} {p q : Place} {directory ending : String} {now : Instant} {data : Bytes}
  {request : StoreRequest} {hint : Option String} {bs : Bytes}

/-- The two directories of a store are there. -/
structure IsOpen (s : DirectoryStore) (p q : Place) : Prop where
  data : s.tree.locate (dataPath s.base) = .ok p
  data_directory : s.tree.node? p = some .directory
  descriptions : s.tree.locate (descriptionsPath s.base) = .ok q
  descriptions_directory : s.tree.node? q = some .directory

private theorem val_le_of_isAlphanum {c : Char} (h : c.isAlphanum = true) : c.val ≤ 'z'.val := by
  change (c.isUpper || c.isLower || c.isDigit) = true at h
  rw [Bool.or_eq_true, Bool.or_eq_true] at h
  rcases h with (h | h) | h
  · exact UInt32.le_trans (of_decide_eq_true h).2 (by decide)
  · exact of_decide_eq_true (Bool.and_eq_true_iff.1 h).2
  · exact UInt32.le_trans (of_decide_eq_true (Bool.and_eq_true_iff.1 h).2) (by decide)

private theorem utf8Size_of_isAllowed {c : Char} (h : Handle.isAllowed c = true) : c.utf8Size = 1 := by
  rw [Char.utf8Size_eq_one_iff]
  simp only [Handle.isAllowed, Bool.or_eq_true, decide_eq_true_eq] at h
  rcases h with (h | rfl) | rfl
  · exact UInt32.le_trans (val_le_of_isAlphanum h) (by decide)
  · decide
  · decide

private theorem textSize_make (hint : Option String) (bs : Bytes) :
    Bytes.textSize (Handle.make hint (checksum bs)) = (Handle.make hint (checksum bs)).length := by
  have hallowed := Handle.isAllowed_of_mem_make hint bs
  generalize Handle.make hint (checksum bs) = handle at hallowed
  have hbytes : Bytes.ofText handle = handle.toList.flatMap String.utf8EncodeChar := by
    rw [← Bytes.ofText_ofList, String.ofList_toList]
  rw [← Bytes.length_ofText, hbytes, ← String.length_toList]
  generalize handle.toList = cs at hallowed
  induction cs with
  | nil => rfl
  | cons c cs ih =>
    rw [List.flatMap_cons, List.length_append, String.length_utf8EncodeChar,
      utf8Size_of_isAllowed (hallowed c List.mem_cons_self), ih fun d hd => hallowed d (List.mem_cons_of_mem c hd),
      List.length_cons, Nat.add_comm]

private theorem clear_of_mem_file (hending : ending = ".dat" ∨ ending = ".json") :
    ∀ c ∈ (Handle.make hint (checksum bs) ++ ending).toList, c ≠ '/' ∧ c ≠ '\x00' := by
  have hclear : '/' ∉ ending.toList ∧ '\x00' ∉ ending.toList := by rcases hending with rfl | rfl <;> decide
  intro c hc
  rw [String.toList_append, List.mem_append] at hc
  rcases hc with hc | hc
  · have hallowed := Handle.isAllowed_of_mem_make hint bs c hc
    constructor <;>
    · rintro rfl
      exact absurd hallowed (by decide)
  · exact ⟨List.forall_mem_ne'.2 hclear.1 c hc, List.forall_mem_ne'.2 hclear.2 c hc⟩

private theorem head?_file (hending : ending = ".dat" ∨ ending = ".json") :
    (Handle.make hint (checksum bs) ++ ending).toList.head? ≠ some '/' :=
  fun h => (clear_of_mem_file hending '/' (List.mem_of_mem_head? h)).1 rfl

private theorem locate_file (hlocate : s.tree.locate directory = .ok p) (hp : s.tree.node? p = some .directory)
    (hending : ending = ".dat" ∨ ending = ".json") (hzero : '\x00' ∉ directory.toList)
    (hname : (Handle.make hint (checksum bs)).length + 5 ≤ FileTree.maxName)
    (hpath : Bytes.textSize directory + (Handle.make hint (checksum bs)).length + 6 < FileTree.maxPath) :
    s.tree.locate (join directory (Handle.make hint (checksum bs) ++ ending)) =
      .ok (p ++ [Handle.make hint (checksum bs) ++ ending]) := by
  have hsize : Bytes.textSize ending ≤ 5 := by rcases hending with rfl | rfl <;> decide
  have hlong : 2 < ending.length := by rcases hending with rfl | rfl <;> decide
  have hchars := @clear_of_mem_file _ hint bs hending
  have hhead := @head?_file _ hint bs hending
  have hbytes := textSize_make hint bs
  generalize Handle.make hint (checksum bs) = handle at *
  have hfile : Bytes.textSize (handle ++ ending) ≤ handle.length + 5 := by
    rw [← hbytes]
    exact String.utf8ByteSize_append.le.trans (Nat.add_le_add_left hsize _)
  rw [join, if_neg hhead]
  refine FileTree.locate_child hlocate hp (fun c hc => (hchars c hc).1) ?_ (hfile.trans hname) ?_ ?_
  · rw [String.length_append]
    omega
  · rw [List.contains_eq_mem, decide_eq_false_iff_not, String.toList_append, List.mem_append, String.toList_append,
      List.mem_append]
    rintro ((h | h) | h)
    · exact hzero h
    · exact absurd h (by decide)
    · exact (hchars _ h).2 rfl
  · have hjoined : Bytes.textSize (directory ++ "/" ++ (handle ++ ending)) =
        Bytes.textSize directory + 1 + Bytes.textSize (handle ++ ending) := by
      rw [Bytes.textSize, String.utf8ByteSize_append, String.utf8ByteSize_append]
      rfl
    omega

private theorem join_facts {base name : String} (hname : name = "data" ∨ name = "meta") (hzero : '\x00' ∉ base.toList) :
    '\x00' ∉ (join base name).toList ∧ Bytes.textSize (join base name) = Bytes.textSize base + 5 := by
  have hjoin : join base name = base ++ "/" ++ name := by
    rw [join, if_neg]
    rcases hname with rfl | rfl <;> decide
  have hsize : Bytes.textSize name = 4 := by rcases hname with rfl | rfl <;> decide
  have hclear : '\x00' ∉ name.toList := by rcases hname with rfl | rfl <;> decide
  rw [hjoin]
  refine ⟨?_, ?_⟩
  · rw [String.toList_append, List.mem_append, String.toList_append, List.mem_append]
    rintro ((h | h) | h)
    · exact hzero h
    · exact absurd h (by decide)
    · exact hclear h
  · rw [Bytes.textSize] at hsize
    rw [Bytes.textSize, Bytes.textSize, String.utf8ByteSize_append, String.utf8ByteSize_append, hsize]
    rfl

/-- Data are stored in an open store if the name of their files is short and no directory has it. -/
theorem exists_run_put (hopen : s.IsOpen p q) (hzero : '\x00' ∉ s.base.toList)
    (hname : (Handle.make request.hint (checksum (s.keptFor data request.password))).length + 5 ≤ FileTree.maxName)
    (hpath : Bytes.textSize s.base + (Handle.make request.hint (checksum (s.keptFor data request.password))).length + 11 <
      FileTree.maxPath)
    (hfree : ∀ name, s.tree.node? (p ++ [name]) ≠ some .directory ∧ s.tree.node? (q ++ [name]) ≠ some .directory) :
    ∃ ref s', (put now data request).run s = (.ok ref, s') := by
  obtain ⟨hdataZero, hdataSize⟩ := join_facts (Or.inl rfl) hzero
  obtain ⟨hdescriptionsZero, hdescriptionsSize⟩ := join_facts (Or.inr rfl) hzero
  rw [run_put]
  dsimp only
  generalize s.keptFor data request.password = kept at *
  have hblob : s.tree.locate (blobPath s.base (Handle.make request.hint (checksum kept))) = .ok _ :=
    locate_file hopen.data hopen.data_directory (Or.inl rfl) hdataZero hname
      (by rw [dataPath, hdataSize]; omega)
  have hdescription : s.tree.locate (descriptionPath s.base (Handle.make request.hint (checksum kept))) = .ok _ :=
    locate_file hopen.descriptions hopen.descriptions_directory (Or.inr rfl) hdescriptionsZero hname
      (by rw [descriptionsPath, hdescriptionsSize]; omega)
  have hhandle : (entry now request data kept).handle = Handle.make request.hint (checksum kept) := rfl
  rw [← hhandle] at hblob hdescription
  generalize entry now request data kept = new at hblob hdescription ⊢
  cases s.recorded new.handle new.checksum with
  | some d => exact ⟨_, _, rfl⟩
  | none =>
    obtain ⟨tree, hwrite, hchanges⟩ := FileTree.exists_write hblob (hfree _).1 kept
    have hstill : tree.node? (q ++ [new.handle ++ ".json"]) ≠ some .directory :=
      fun hdirectory => (hfree _).2 ((hchanges.directories _).1 hdirectory)
    obtain ⟨after, henter, -⟩ :=
      FileTree.exists_write (hchanges.locate_eq_ok.2 hdescription) hstill (Bytes.ofText new.write)
    simp only [hwrite, henter]
    exact ⟨_, _, rfl⟩

def openedTree : FileTree :=
  ((FileTree.empty.set ["s"] .directory).set ["s", "data"] .directory).set ["s", "meta"] .directory

def opened (draws : Nat → Draw) : DirectoryStore := ⟨"/s", openedTree, draws, 0⟩

example (draws : Nat → Draw) : openAt "/s" FileTree.empty draws = .ok (opened draws) := rfl

private theorem locate_openedTree : openedTree.locate (dataPath "/s") = .ok ["s", "data"] ∧
    openedTree.locate (descriptionsPath "/s") = .ok ["s", "meta"] := by
  decide +kernel

/-- The store opened in an empty tree has its two directories. -/
theorem isOpen_opened (draws : Nat → Draw) : (opened draws).IsOpen ["s", "data"] ["s", "meta"] where
  data := locate_openedTree.1
  data_directory := rfl
  descriptions := locate_openedTree.2
  descriptions_directory := rfl

/-- The directories of an open store hold nothing at first. -/
theorem node?_opened (draws : Nat → Draw) (directory name : String) :
    (opened draws).tree.node? ["s", directory, name] = none := by
  have hempty : FileTree.empty.node? ["s", directory, name] = none := by simp [FileTree.node?, FileTree.empty]
  rw [opened, openedTree, FileTree.node?_set (by simp), FileTree.node?_set (by simp), FileTree.node?_set (by simp),
    hempty]
  simp

/-- The store opened in an empty tree holds no descriptions. -/
theorem isEmpty_opened (draws : Nat → Draw) : (opened draws).IsEmpty := by
  have hopen := isOpen_opened draws
  exact ⟨_, hopen.descriptions, hopen.descriptions_directory, node?_opened draws "meta"⟩

private theorem length_make_none (checksum : String) : (Handle.make none checksum).length ≤ 37 := by
  rw [Handle.make, String.length_ofList, List.length_append, List.length_cons, List.length_take]
  have hhint : (Handle.sanitized none).length = 4 := by decide
  rw [hhint, Handle.suffixLength]
  omega

/-- Data without a hint are stored in a store that was just opened. -/
theorem exists_run_put_opened (draws : Nat → Draw) (now : Instant) (data : Bytes) (hhint : request.hint = none) :
    ∃ ref s', (put now data request).run (opened draws) = (.ok ref, s') := by
  have hlength := length_make_none (checksum ((opened draws).keptFor data request.password))
  rw [← hhint] at hlength
  have hbase : Bytes.textSize (opened draws).base = 2 := rfl
  refine exists_run_put (isOpen_opened draws) ?_ ?_ ?_ fun name => ?_
  · change '\x00' ∉ "/s".toList
    decide
  · rw [FileTree.maxName]
    omega
  · rw [hbase, FileTree.maxPath]
    omega
  · rw [List.cons_append, List.cons_append, List.nil_append, List.cons_append, List.cons_append, List.nil_append,
      node?_opened, node?_opened]
    simp

private theorem join_dotted {name : String} (hname : name.toList.head? ≠ some '/') :
    join directory ("./" ++ name) = join (directory ++ "/.") name := by
  have hdots : "./" = "." ++ "/" := by decide
  have hslash : "/." = "/" ++ "." := by decide
  have hhead : ("./" ++ name).toList.head? ≠ some '/' := by
    have hlist : "./".toList = ['.', '/'] := by decide
    rw [String.toList_append, hlist]
    simp
  rw [join, join, if_neg hhead, if_neg hname, hdots, hslash]
  simp only [String.append_assoc]

private theorem locate_dotted_file (hlocate : s.tree.locate directory = .ok p)
    (hdotted : s.tree.locate (directory ++ "/.") = .ok p) (hp : s.tree.node? p = some .directory)
    (hending : ending = ".dat" ∨ ending = ".json") (hzero : '\x00' ∉ directory.toList)
    (hsize : Bytes.textSize directory < 1000) :
    s.tree.locate (join directory ("./" ++ Handle.make none (checksum bs) ++ ending)) =
      s.tree.locate (join directory (Handle.make none (checksum bs) ++ ending)) := by
  have hlength := length_make_none (checksum bs)
  have hzeroDotted : '\x00' ∉ (directory ++ "/.").toList := by
    rw [String.toList_append, List.mem_append]
    rintro (h | h)
    · exact hzero h
    · exact absurd h (by decide)
  have hsizeDotted : Bytes.textSize (directory ++ "/.") = Bytes.textSize directory + 2 := String.utf8ByteSize_append
  rw [String.append_assoc, join_dotted (head?_file hending), locate_file hlocate hp hending hzero,
    locate_file hdotted hp hending hzeroDotted]
  all_goals
    simp only [FileTree.maxName, FileTree.maxPath]
    omega

/-- In a store that was just opened, a dot in front of the handle of a blob leads to the files of the blob. -/
theorem locate_dotted (draws : Nat → Draw) (bs : Bytes) :
    (opened draws).tree.locate (blobPath "/s" ("./" ++ Handle.make none (checksum bs))) =
        (opened draws).tree.locate (blobPath "/s" (Handle.make none (checksum bs))) ∧
      (opened draws).tree.locate (descriptionPath "/s" ("./" ++ Handle.make none (checksum bs))) =
        (opened draws).tree.locate (descriptionPath "/s" (Handle.make none (checksum bs))) := by
  have hdata : openedTree.locate (dataPath "/s" ++ "/.") = .ok ["s", "data"] := by decide +kernel
  have hdescriptions : openedTree.locate (descriptionsPath "/s" ++ "/.") = .ok ["s", "meta"] := by decide +kernel
  have hopen := isOpen_opened draws
  exact ⟨locate_dotted_file hopen.data hdata rfl (Or.inl rfl) (by decide) (by decide),
    locate_dotted_file hopen.descriptions hdescriptions rfl (Or.inr rfl) (by decide) (by decide)⟩

end TieredLedger.DirectoryStore
