import Mathlib.Data.List.Nodup
import TieredLedger.Json.Value

/-! The fields of a record are found again under their names. -/
namespace TieredLedger.Json

variable {α : Type} {fields : List (String × Json)}

/-- Under names that differ an entry is found if it is there. -/
theorem find?_name_eq_some {entries : List (String × α)} (hnodup : (entries.map Prod.fst).Nodup) {name : String}
    {a : α} : (entries.find? fun entry => entry.1 == name).map Prod.snd = some a ↔ (name, a) ∈ entries := by
  have hname : ∀ entry, entries.find? (fun entry => entry.1 == name) = some entry → entry.1 = name := by
    intro entry hfound
    have hsame := List.find?_some hfound
    exact beq_iff_eq.1 hsame
  rw [Option.map_eq_some_iff]
  constructor
  · rintro ⟨entry, hfound, rfl⟩
    rw [← hname entry hfound]
    exact List.mem_of_find?_eq_some hfound
  · intro hmem
    have hsome : (entries.find? fun entry => entry.1 == name).isSome :=
      List.find?_isSome.2 ⟨(name, a), hmem, beq_self_eq_true name⟩
    obtain ⟨found, hfound⟩ := Option.isSome_iff_exists.1 hsome
    have heq : found = (name, a) :=
      List.inj_on_of_nodup_map hnodup (List.mem_of_find?_eq_some hfound) hmem (hname found hfound)
    exact ⟨found, hfound, congrArg Prod.snd heq⟩

private theorem filter_name (hnodup : (fields.map Prod.fst).Nodup) {name : String} {value : Json}
    (hmem : (name, value) ∈ fields) : (fields.filter fun (other, _) => other == name) = [(name, value)] := by
  induction fields with
  | nil => cases hmem
  | cons field fields ih =>
    obtain ⟨other, found⟩ := field
    rw [List.map_cons, List.nodup_cons] at hnodup
    rcases List.mem_cons.1 hmem with heq | hmem
    · cases heq
      have hrest : (fields.filter fun (other, _) => other == name) = [] := by
        rw [List.filter_eq_nil_iff]
        rintro ⟨other, found⟩ hother heq
        rw [beq_iff_eq] at heq
        subst heq
        exact hnodup.1 (List.mem_map.2 ⟨_, hother, rfl⟩)
      rw [List.filter_cons_of_pos (by simp), hrest]
    · have hne : other ≠ name := by
        rintro rfl
        exact hnodup.1 (List.mem_map.2 ⟨_, hmem, rfl⟩)
      rw [List.filter_cons_of_neg (by simpa using hne), ih hnodup.2 hmem]

private theorem mapM_members (fields : List (String × Json)) :
    (fields.map fun (name, value) => ((some name : Option String), value)).mapM
      (fun (key, value) => key.map fun name => (name, value)) = some fields := by
  rw [List.mapM_map]
  exact (List.mapM_pure (m := Option) (f := id)).trans (congrArg some (List.map_id fields))

/-- The fields of a record are read in the order that is asked for, whatever order they stand in. -/
theorem record?_of_perm {chosen : List (String × Json)} (hperm : fields.Perm chosen)
    (hnodup : (chosen.map Prod.fst).Nodup) :
    (record fields).record? (chosen.map Prod.fst) = some (chosen.map fun field => some field.2) := by
  have hfields : (fields.map Prod.fst).Nodup := (hperm.map Prod.fst).nodup_iff.2 hnodup
  have hfound : ∀ part : List (String × Json), part ⊆ fields →
      (part.map Prod.fst).mapM (member? fields) = some (part.map fun field => some field.2) := by
    intro part hpart
    induction part with
    | nil => rfl
    | cons field rest ih =>
      have hfield : member? fields field.1 = some (some field.2) := by
        rw [member?, filter_name hfields (hpart List.mem_cons_self)]
      rw [List.map_cons, List.mapM_cons, hfield, ih fun f hf => hpart (List.mem_cons_of_mem field hf)]
      rfl
  rw [record, record?, mapM_members]
  exact hfound chosen hperm.symm.subset

/-- The fields of a record are read in their order. -/
theorem record?_record (fields : List (String × Json)) (hnodup : (fields.map Prod.fst).Nodup) :
    (record fields).record? (fields.map Prod.fst) = some (fields.map fun field => some field.2) :=
  record?_of_perm (List.Perm.refl fields) hnodup

private theorem eq_map_of_mapM_members {members : List (Option String × Json)}
    (h : members.mapM (fun (key, value) => key.map fun name => (name, value)) = some fields) :
    members = fields.map fun (name, value) => (some name, value) := by
  induction members generalizing fields with
  | nil =>
    cases h
    rfl
  | cons member members ih =>
    obtain ⟨key, value⟩ := member
    rw [List.mapM_cons] at h
    simp only [Option.bind_eq_bind, Option.bind_eq_some_iff, Option.map_eq_some_iff, Option.pure_def,
      Option.some.injEq] at h
    obtain ⟨-, ⟨name, rfl, rfl⟩, fields, hfields, rfl⟩ := h
    rw [List.map_cons, ih hfields]

/-- A field that is found is the only member under its name. -/
theorem mem_iff_of_member? {name : String} {value other : Json} (h : member? fields name = some (some value)) :
    (name, other) ∈ fields ↔ other = value := by
  have hfilter : fields.filter (fun (other, _) => other == name) = [(name, value)] := by
    rw [member?] at h
    split at h
    · cases h
    · next other found hfound =>
      have hother : (other, found) ∈ fields.filter fun (other, _) => other == name := hfound ▸ List.mem_cons_self
      have hname : other = name := beq_iff_eq.1 (List.mem_filter.1 hother).2
      rw [hfound, hname, Option.some.inj (Option.some.inj h)]
    · cases h
  have hmem : (name, other) ∈ fields ↔ (name, other) ∈ fields.filter fun (other, _) => other == name := by
    rw [List.mem_filter]
    exact (and_iff_left (beq_self_eq_true name)).symm
  rw [hmem, hfilter, List.mem_singleton, Prod.mk.injEq]
  exact and_iff_right rfl

/-- A record that is read is an object whose members all have names, each field being looked for under its own, or an
array of its fields. -/
theorem record?_eq_some {names : List String} {j : Json} {values : List (Option Json)}
    (h : j.record? names = some values) :
    (∃ fields, j = record fields ∧ names.mapM (member? fields) = some values) ∨
      ∃ items, j = array items ∧ items.length = names.length ∧ values = items.map some := by
  cases j with
  | object members =>
    simp only [record?, Option.bind_eq_bind, Option.bind_eq_some_iff] at h
    obtain ⟨fields, hfields, hvalues⟩ := h
    exact Or.inl ⟨fields, congrArg object (eq_map_of_mapM_members hfields), hvalues⟩
  | array items =>
    rw [record?] at h
    split at h
    · next hlength => exact Or.inr ⟨items, rfl, hlength, (Option.some.inj h).symm⟩
    · cases h
  | null | bool _ | number _ | string _ => cases h

/-- A map is read from an object, each entry from the member in its place. -/
theorem map?_eq_some {read : Json → Option α} {j : Json} {entries : List (String × α)} :
    j.map? read = some entries ↔ ∃ members, j = object members ∧
      members.Forall₂ (fun member entry => member.1 = some entry.1 ∧ read member.2 = some entry.2) entries := by
  have hmembers : ∀ members : List (Option String × Json), (object members).map? read = some entries ↔
      members.Forall₂ (fun member entry => member.1 = some entry.1 ∧ read member.2 = some entry.2) entries := by
    intro members
    rw [map?]
    induction members generalizing entries with
    | nil => simp [List.forall₂_nil_left_iff, eq_comm]
    | cons member members ih =>
      simp only [List.mapM_cons, Option.bind_eq_bind, Option.bind_eq_some_iff, Option.pure_def, Option.some.injEq,
        List.forall₂_cons_left_iff]
      constructor
      · rintro ⟨entry, ⟨key, hkey, value, hvalue, rfl⟩, rest, hrest, rfl⟩
        exact ⟨_, _, ⟨hkey, hvalue⟩, ih.1 hrest, rfl⟩
      · rintro ⟨entry, rest, ⟨hkey, hvalue⟩, hrest, rfl⟩
        exact ⟨entry, ⟨_, hkey, _, hvalue, rfl⟩, rest, ih.2 hrest, rfl⟩
  constructor
  · intro h
    cases j with
    | object members => exact ⟨members, rfl, (hmembers members).1 h⟩
    | null | bool _ | number _ | string _ | array _ => cases h
  · rintro ⟨members, rfl, h⟩
    exact (hmembers members).2 h

/-- A word comes back from its JSON form. -/
theorem word?_word (n : UInt64) : (word n).word? = some n := by
  have hbelow : (word n).below? UInt64.size = some n.toNat := by
    rw [below?, word, natural, natural?]
    simp [Numeral.toNat?, Option.filter, n.toNat_lt]
  rw [word?, hbelow, Option.map_some, UInt64.ofNat_toNat]

/-- A value that may be missing is found again if null stands for nothing else. -/
theorem optional_option {read : Json → Option α} {write : α → Json} {found : α → α}
    (hread : ∀ a, read (write a) = some (found a)) (hnull : ∀ a, write a ≠ null) (o : Option α) :
    optional read (some (option write o)) = some (o.map found) := by
  cases o with
  | none => rfl
  | some a =>
    rw [option, optional]
    · rw [hread, Option.map_some, Option.map_some]
    · exact hnull a

end TieredLedger.Json
