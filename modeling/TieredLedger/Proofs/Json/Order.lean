import Mathlib.Data.List.Forall2
import Mathlib.Data.List.Perm.Basic
import TieredLedger.Proofs.Json.Record

/-! The members of an object may stand in any order: a record is read in the same way, at every depth. -/
namespace TieredLedger.Json

variable {α : Type} {read : Json → Option α} {write : α → Json} {j : Json}

/-- A value with the members of its objects, at any depth, in any order. -/
inductive Reorders : Json → Json → Prop
  | refl (j : Json) : Reorders j j
  | array {items others : List Json} (hitems : List.Forall₂ Reorders items others) :
    Reorders (array items) (array others)
  | object {members others shuffled : List (Option String × Json)} (hkeys : members.map Prod.fst = others.map Prod.fst)
    (hvalues : List.Forall₂ Reorders (members.map Prod.snd) (others.map Prod.snd)) (hperm : shuffled.Perm others) :
    Reorders (object members) (object shuffled)

private theorem forall₂_refl (items : List Json) : List.Forall₂ Reorders items items :=
  List.forall₂_same.2 fun item _ => .refl item

/-- A string can be ordered in no other way. -/
theorem reorders_string {s : Option String} : (string s).Reorders j ↔ j = string s := by
  constructor
  · rintro ⟨⟩
    rfl
  · rintro rfl
    exact .refl _

/-- A number can be ordered in no other way. -/
theorem reorders_number {n : Numeral} : (number n).Reorders j ↔ j = number n := by
  constructor
  · rintro ⟨⟩
    rfl
  · rintro rfl
    exact .refl _

/-- A truth value can be ordered in no other way. -/
theorem reorders_bool {b : Bool} : (bool b).Reorders j ↔ j = bool b := by
  constructor
  · rintro ⟨⟩
    rfl
  · rintro rfl
    exact .refl _

/-- Items are read one by one, each with its members in any order. -/
theorem array?_of_reorders {as : List α} (hread : ∀ a ∈ as, ∀ j, (write a).Reorders j → read j = some a)
    (h : (array (as.map write)).Reorders j) : j.array? read = some as := by
  obtain ⟨others, rfl, hitems⟩ : ∃ others, j = array others ∧ List.Forall₂ Reorders (as.map write) others := by
    cases h with
    | refl => exact ⟨_, rfl, forall₂_refl _⟩
    | array hitems => exact ⟨_, rfl, hitems⟩
  rw [array?]
  clear h
  induction as generalizing others with
  | nil =>
    rw [List.map_nil, List.forall₂_nil_left_iff] at hitems
    rw [hitems, List.mapM_nil]
    rfl
  | cons a as ih =>
    rw [List.map_cons, List.forall₂_cons_left_iff] at hitems
    obtain ⟨item, others, hitem, hothers, rfl⟩ := hitems
    rw [List.mapM_cons, hread a List.mem_cons_self item hitem,
      ih (fun b hb => hread b (List.mem_cons_of_mem a hb)) others hothers]
    rfl

private theorem eq_map_of_keys {fields : List (String × Json)} {members : List (Option String × Json)}
    (hkeys : (fields.map fun (name, value) => ((some name : Option String), value)).map Prod.fst =
      members.map Prod.fst) : ∃ chosen : List (String × Json),
        members = chosen.map (fun (name, value) => (some name, value)) ∧
          chosen.map Prod.fst = fields.map Prod.fst := by
  induction fields generalizing members with
  | nil =>
    obtain rfl := List.map_eq_nil_iff.1 hkeys.symm
    exact ⟨[], rfl, rfl⟩
  | cons field fields ih =>
    cases members with
    | nil => cases hkeys
    | cons member members =>
      obtain ⟨key, value⟩ := member
      rw [List.map_cons, List.map_cons, List.map_cons, List.cons_eq_cons] at hkeys
      obtain ⟨rfl, hkeys⟩ := hkeys
      obtain ⟨chosen, rfl, hnames⟩ := ih hkeys
      exact ⟨(field.1, value) :: chosen, rfl, by rw [List.map_cons, List.map_cons, hnames]⟩

private theorem exists_perm_of_reorders {fields : List (String × Json)} (h : (record fields).Reorders j) :
    ∃ found chosen : List (String × Json), j = record found ∧ found.Perm chosen ∧
      chosen.map Prod.fst = fields.map Prod.fst ∧
      List.Forall₂ Reorders (fields.map Prod.snd) (chosen.map Prod.snd) := by
  rw [record] at h
  cases h with
  | refl => exact ⟨fields, fields, rfl, .refl _, rfl, forall₂_refl _⟩
  | @object _ _ shuffled hkeys hvalues hperm =>
    obtain ⟨chosen, rfl, hnames⟩ := eq_map_of_keys hkeys
    have hchosen : List.Forall₂ (fun (member : Option String × Json) field => member = (some field.1, field.2))
        (chosen.map fun (name, value) => (some name, value)) chosen :=
      List.forall₂_map_left_iff.2 (List.forall₂_same.2 fun _ _ => rfl)
    obtain ⟨found, hfound, hfoundPerm⟩ := List.perm_comp_forall₂ hperm hchosen
    have hshuffled : List.Forall₂ (· = ·) shuffled (found.map fun (name, value) => (some name, value)) :=
      List.forall₂_map_right_iff.2 hfound
    rw [List.forall₂_eq_eq_eq] at hshuffled
    rw [List.map_map, List.map_map] at hvalues
    exact ⟨found, chosen, congrArg Json.object hshuffled, hfoundPerm, hnames, hvalues⟩

/-- The fields of a record are read in the order that is asked for, each value with its own members in any order. -/
theorem record?_of_reorders {fields : List (String × Json)} (hnodup : (fields.map Prod.fst).Nodup)
    (h : (record fields).Reorders j) : ∃ members values, j = object members ∧
      List.Forall₂ Reorders (fields.map Prod.snd) values ∧
      j.record? (fields.map Prod.fst) = some (values.map some) := by
  obtain ⟨found, chosen, rfl, hperm, hnames, hvalues⟩ := exists_perm_of_reorders h
  refine ⟨_, chosen.map Prod.snd, rfl, hvalues, ?_⟩
  rw [← hnames] at hnodup ⊢
  rw [record?_of_perm hperm hnodup, List.map_map]
  rfl

/-- A value that may be missing is found again if what is written for it never becomes null. -/
theorem optional_of_reorders {found : α → α} (hread : ∀ a j, (write a).Reorders j → read j = some (found a))
    (hnull : ∀ a, ¬ (write a).Reorders null) {o : Option α} (h : (option write o).Reorders j) :
    optional read (some j) = some (o.map found) := by
  cases o with
  | none =>
    cases h
    rfl
  | some a =>
    rw [optional]
    · rw [hread a j h, Option.map_some, Option.map_some]
    · rintro rfl
      exact hnull a h

end TieredLedger.Json
