import TieredLedger.Text.Alphanumeric
import TieredLedger.Text.Pattern.CharacterClass

/-! Patterns: regular expressions, of which only the form matters here. Of characters beyond ASCII nothing is known to
a pattern, so that one is refused that names a class of all scripts, or letters in either case. No pattern holds a
closing brace: an opening brace outside a class therefore begins a count that never ends. -/
namespace TieredLedger.Pattern

inductive Fault
  /-- The text is no pattern, or it asks for what is not known. -/
  | malformed
  /-- Words of all scripts are to be told apart. -/
  | wordBoundary
deriving DecidableEq, Repr

structure Group where
  mode : Mode
  /-- The depths of the parts of its last branch, the last one first. -/
  parts : List Nat
  /-- The depths of the branches before. -/
  branches : List Nat
  /-- Whether the last part can be repeated. -/
  repeatable : Bool

namespace Group

def start (mode : Mode) : Group := ⟨mode, [], [], false⟩

def add (g : Group) (depth : Nat) : Group := { g with parts := depth :: g.parts, repeatable := true }

def change (g : Group) (mode : Mode) : Group := { g with mode, parts := 0 :: g.parts, repeatable := false }

def branch (g : Group) : Group :=
  { g with parts := [], branches := rowDepth g.parts :: g.branches, repeatable := false }

def repeated? (g : Group) : Option Group :=
  match g.parts with
  | depth :: parts => if g.repeatable then some { g with parts := (depth + 1) :: parts } else none
  | [] => none

def depth (g : Group) : Nat := rowDepth (rowDepth g.parts :: g.branches)

end Group

structure State where
  group : Group
  /-- The open groups around, innermost first. -/
  outer : List Group
  /-- The names of the groups so far. -/
  names : List (List Char)
  /-- Whether words of all scripts are to be told apart. -/
  boundary : Bool

namespace State

def initial : State := ⟨.start .standard, [], [], false⟩

def mode (s : State) : Mode := s.group.mode

def item (s : State) (depth : Nat) : State := { s with group := s.group.add depth }

def enter (s : State) (mode : Mode) : State := { s with group := .start mode, outer := s.group :: s.outer }

def isName : List Char → Bool
  | [] => false
  | c :: cs =>
    (c = '_' || Text.isAlphabetic c) && cs.all fun d => "_.[]".toList.contains d || Text.isAlphanumeric d

def enterNamed (s : State) (cs : List Char) : Option (State × List Char) :=
  let name := cs.takeWhile (· ≠ '>')
  match cs.dropWhile (· ≠ '>') with
  | _ :: rest =>
    if isName name && !s.names.contains name then some ({ s.enter s.mode with names := name :: s.names }, rest)
    else none
  | [] => none

/-- Reads what is said of a group behind its parenthesis: a name, or flags, which may also stand for the rest of the
group around them. -/
def enterGroup (s : State) : List Char → Option (State × List Char)
  | '?' :: 'P' :: '<' :: cs => s.enterNamed cs
  | '?' :: '<' :: cs => s.enterNamed cs
  | '?' :: cs => do
    let (mode, opens, cs) ← s.mode.readFlags [] cs
    return (if opens then s.enter mode else { s with group := s.group.change mode }, cs)
  | cs => some (s.enter s.mode, cs)

def step (s : State) (fuel : Nat) (c : Char) (cs : List Char) : Option (State × List Char) :=
  match c with
  | '(' => s.enterGroup (s.mode.gap cs)
  | ')' =>
    match s.outer with
    | [] => none
    | group :: outer => some ({ s with group := group.add (s.group.depth + 1), outer }, cs)
  | '|' => some ({ s with group := s.group.branch }, cs)
  | '?' | '*' | '+' => do
    return ({ s with group := ← s.group.repeated? }, if cs.head? = some '?' then cs.drop 1 else cs)
  | '\x7b' => none
  | '[' => do
    let (depth, cs) ← CharacterClass.read s.mode fuel cs
    return (s.item depth, cs)
  | '\\' => do
    let (e, cs) ← Escape.read s.mode cs
    if e.isAllowed s.mode then
      some ({ s.item 0 with boundary := s.boundary || (s.mode.unicode && e = .boundary) }, cs)
    else none
  | '.' => if s.mode.unicode then some (s.item 0, cs) else none
  | '^' | '$' => some (s.item 0, cs)
  | _ => if s.mode.knowsCases then some (s.item 0, cs) else none

/-- Reads a pattern to its end. Each part takes a character at least, which is what the fuel counts. -/
def run : (fuel : Nat) → State → List Char → Option State
  | 0, _, _ => none
  | fuel + 1, s, cs =>
    match s.mode.gap cs with
    | [] => some s
    | c :: cs => (s.step (fuel + 1) c cs).bind fun (s, cs) => run fuel s cs

end State

def fault? (cs : List Char) : Option Fault :=
  match State.initial.run (cs.length + 1) cs with
  | none => some .malformed
  | some s =>
    if s.outer ≠ [] ∨ s.group.depth > maxDepth then some .malformed
    else if s.boundary then some .wordBoundary
    else none

end TieredLedger.Pattern
