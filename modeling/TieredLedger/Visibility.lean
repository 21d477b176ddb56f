import TieredLedger.Keyword
import Std.Data.TreeMap
import Std.Data.TreeSet

/-! Which search terms of a block may be read by anyone, and which only with its password. -/
namespace TieredLedger

inductive Visibility
  /-- Anyone. -/
  | shown
  /-- Whoever has the password. -/
  | hidden
deriving DecidableEq, Repr, Inhabited

namespace Visibility

def name : Visibility → String
  | shown => "public"
  | hidden => "private"

def ofName? : String → Option Visibility
  | "public" => some shown
  | "private" => some hidden
  | _ => none

def toJson (v : Visibility) : Json := .text v.name

def ofJson? (j : Json) : Option Visibility := j.choice?.bind ofName?

end Visibility

abbrev TermSet := Std.TreeSet String

/-- The visibility of every term: a default, and exceptions by normal form. -/
structure VisibilityMap where
  default : Visibility
  overrides : Std.TreeMap String Visibility

namespace VisibilityMap

def uniform (v : Visibility) : VisibilityMap := ⟨v, ∅⟩

def hideAll : VisibilityMap := uniform .hidden

instance : Inhabited VisibilityMap := ⟨hideAll⟩

def setOne (m : VisibilityMap) (v : Visibility) (term : String) : VisibilityMap :=
  let key := Term.normal term
  if key.isEmpty then m else { m with overrides := m.overrides.insert key v }

def set (m : VisibilityMap) (v : Visibility) (terms : List String) : VisibilityMap :=
  terms.foldl (fun m term => m.setOne v term) m

def visibilityOf (m : VisibilityMap) (term : String) : Visibility :=
  (m.overrides[Term.normal term]?).getD m.default

def select (m : VisibilityMap) (v : Visibility) (terms : TermSet) : List String :=
  terms.toList.filter fun term => m.visibilityOf term == v

structure Split where
  shown : List String
  hidden : List String
deriving DecidableEq, Repr

def Split.size (s : Split) : Nat := s.shown.length + s.hidden.length

def partition (m : VisibilityMap) (terms : TermSet) : Split := ⟨m.select .shown terms, m.select .hidden terms⟩

def toJson (m : VisibilityMap) : Json :=
  .record [("default_level", m.default.toJson),
    ("overrides", .record (m.overrides.toList.map fun (term, v) => (term, v.toJson)))]

def ofJson? (j : Json) : Option VisibilityMap := do
  match ← j.record? ["default_level", "overrides"] with
  | [level, overrides] =>
    let level ← Json.required Visibility.ofJson? level
    let overrides ← Json.required (Json.map? Visibility.ofJson?) overrides
    return ⟨level, overrides.foldl (fun m (term, v) => m.insert term v) ∅⟩
  | _ => none

end VisibilityMap

end TieredLedger
