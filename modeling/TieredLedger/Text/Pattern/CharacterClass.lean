import TieredLedger.Text.Pattern.Mode

/-! Classes of characters in patterns: members between brackets, and classes combined by operators. A class is only
read through and its depth is told; the members matter as far as they can make it unusable. -/
namespace TieredLedger.Pattern.CharacterClass

def names : List String :=
  ["alnum", "alpha", "ascii", "blank", "cntrl", "digit", "graph", "lower", "print", "punct", "space", "upper", "word",
   "xdigit"]

/-- Reads a class by its name, behind the opening bracket, and tells whether all but that class is meant. -/
def named? : List Char → Option (Bool × List Char)
  | ':' :: cs =>
    let name := if cs.head? = some '^' then cs.drop 1 else cs
    match name.dropWhile (· ≠ ':') with
    | ':' :: ']' :: rest =>
      if names.contains (String.ofList (name.takeWhile (· ≠ ':'))) then some (cs.head? = some '^', rest) else none
    | _ => none
  | _ => none

def readMember (m : Mode) : List Char → Option (Option Char × List Char)
  | [] => none
  | '\\' :: cs => do
    match ← Escape.read m cs with
    | (.char c _, cs) => if m.unicode || c.toNat < 128 then some (some c, cs) else none
    | (.set negated, cs) => if !m.unicode && !negated then some (none, cs) else none
    | _ => none
  | c :: cs => if m.unicode || c.toNat < 128 then some (some c, cs) else none

def readRange (m : Mode) (cs : List Char) : Option (List Char) := do
  let (first, cs) ← readMember m cs
  match m.gap cs with
  | '-' :: rest =>
    if m.glance false rest = some ']' || m.glance false rest = some '-' then return '-' :: rest
    let (last, rest) ← readMember m (m.gap rest)
    if (← first) ≤ (← last) then return rest else none
  | cs => return cs

/-- What has been read of a class: the depths of the members since its last operator, and that of all before. -/
structure Open where
  members : List Nat
  before : Option Nat

namespace Open

def add (o : Open) (depth : Nat) : Open := { o with members := depth :: o.members }

def depth (o : Open) : Nat :=
  match o.before with
  | none => rowDepth o.members
  | some before => rowDepth [before, rowDepth o.members]

def combine (o : Open) : Open := ⟨[], some o.depth⟩

end Open

def readDashes (m : Mode) : (fuel : Nat) → Open → List Char → Open × List Char
  | 0, o, cs => (o, cs)
  | fuel + 1, o, cs =>
    match m.gap cs with
    | '-' :: cs => readDashes m fuel (o.add 0) cs
    | cs => (o, cs)

/-- Reads the beginning of a class behind its bracket: a caret, then dashes or a closing bracket that stand for
themselves. -/
def enter (m : Mode) (fuel : Nat) (cs : List Char) : Option (Open × List Char) := do
  let cs := m.gap cs
  let negated := cs.head? = some '^'
  if negated && !m.unicode then none
  let (o, cs) := readDashes m fuel ⟨[], none⟩ (if negated then cs.drop 1 else cs)
  let (o, cs) := if o.members.isEmpty && cs.head? = some ']' then (o.add 0, cs.drop 1) else (o, cs)
  if o.members.isEmpty || m.knowsCases then some (o, cs) else none

/-- Reads members and inner classes up to the closing bracket, with the classes that are open around, and gives the
depth of it all. Each takes a character at least, which is what the fuel counts. -/
def readRest (m : Mode) : (fuel : Nat) → Open → List Open → List Char → Option (Nat × List Char)
  | 0, _, _, _ => none
  | fuel + 1, o, outer, cs =>
    match m.gap cs with
    | [] => none
    | '[' :: cs =>
      match named? cs with
      | some (negated, cs) =>
        if !m.knowsCases || (negated && !m.unicode) then none else readRest m fuel (o.add 0) outer cs
      | none => (enter m fuel cs).bind fun (inner, cs) => readRest m fuel inner (o :: outer) cs
    | ']' :: cs =>
      match outer with
      | [] => some (o.depth + 1, cs)
      | next :: outer => readRest m fuel (next.add (o.depth + 1)) outer cs
    | '&' :: '&' :: cs => readRest m fuel o.combine outer cs
    | '-' :: '-' :: cs => readRest m fuel o.combine outer cs
    | '~' :: '~' :: cs => readRest m fuel o.combine outer cs
    | cs => if m.knowsCases then (readRange m cs).bind (readRest m fuel (o.add 0) outer) else none

def read (m : Mode) (fuel : Nat) (cs : List Char) : Option (Nat × List Char) := do
  let (o, cs) ← enter m fuel cs
  readRest m fuel o [] cs

end TieredLedger.Pattern.CharacterClass
