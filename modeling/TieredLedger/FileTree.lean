import TieredLedger.Bytes.Utf8
import TieredLedger.StoreError
import TieredLedger.Text.Blank
import Std.Data.TreeMap

/-! A tree of directories and files, and how a path leads to a place in it. -/
namespace TieredLedger

abbrev Place := List String

inductive FileNode
  | directory
  | file (content : Bytes)
deriving DecidableEq, Repr

/-- A tree of directories and files. The root is a directory that needs no entry. -/
structure FileTree where
  nodes : Std.TreeMap Place FileNode

namespace FileTree

def empty : FileTree := ⟨∅⟩

instance : Inhabited FileTree := ⟨empty⟩

def node? (t : FileTree) (p : Place) : Option FileNode := if p = [] then some .directory else t.nodes[p]?

def set (t : FileTree) (p : Place) (n : FileNode) : FileTree := ⟨t.nodes.insert p n⟩

def maxName : Nat := 255

def maxPath : Nat := 4096

def names (path : String) : List String :=
  ((Text.pieces (· = '/') path.toList).filter fun name => !name.isEmpty).map String.ofList

/-- Follows names from a directory. A single dot stays where it is and two dots lead up; every name but the last must
lead to a directory. -/
def follow (t : FileTree) (here : Place) : List String → Except FileError Place
  | [] => .ok here
  | name :: rest =>
    if name = "." then follow t here rest
    else if name = ".." then follow t here.dropLast rest
    else if Bytes.textSize name > maxName then .error .nameTooLong
    else
      let next := here ++ [name]
      if rest = [] then .ok next
      else
        match t.node? next with
        | none => .error .notFound
        | some (.file _) => .error .notADirectory
        | some .directory => follow t next rest

def locate (t : FileTree) (path : String) : Except FileError Place :=
  if path.toList.contains '\x00' then .error .zeroInName
  else if Bytes.textSize path ≥ maxPath then .error .nameTooLong
  else t.follow [] (names path)

def contains (t : FileTree) (path : String) : Bool :=
  match t.locate path with
  | .ok p => (t.node? p).isSome
  | .error _ => false

def read (t : FileTree) (path : String) : Except FileError Bytes := do
  match t.node? (← t.locate path) with
  | none => throw .notFound
  | some .directory => throw .isADirectory
  | some (.file content) => return content

def readText (t : FileTree) (path : String) : Except FileError String := do
  match Utf8.decode (← t.read path) with
  | .ok text => return text
  | .error _ => throw .notText

def write (t : FileTree) (path : String) (content : Bytes) : Except FileError FileTree := do
  let p ← t.locate path
  match t.node? p with
  | some .directory => throw .isADirectory
  | _ => return t.set p (.file content)

def remove (t : FileTree) (path : String) : Except FileError FileTree := do
  let p ← t.locate path
  match t.node? p with
  | none => throw .notFound
  | some .directory => throw .isADirectory
  | some (.file _) => return ⟨t.nodes.erase p⟩

def makeFrom (t : FileTree) (here : Place) : List String → Except FileError FileTree
  | [] => .ok t
  | name :: rest =>
    let next := here ++ [name]
    match t.node? next with
    | none => makeFrom (t.set next .directory) next rest
    | some .directory => makeFrom t next rest
    | some (.file _) => .error (if rest = [] then .alreadyExists else .notADirectory)

def makeDirectory (t : FileTree) (path : String) : Except FileError FileTree := t.makeFrom [] (names path)

def removeAll (t : FileTree) (path : String) : FileTree :=
  let p := names path
  ⟨t.nodes.filter fun q _ => !p.isPrefixOf q⟩

def list (t : FileTree) (path : String) : Except FileError (List String) := do
  let p ← t.locate path
  match t.node? p with
  | none => throw .notFound
  | some (.file _) => throw .notADirectory
  | some .directory =>
    return t.nodes.keys.filterMap fun q =>
      if q.length = p.length + 1 ∧ p.isPrefixOf q then q.getLast? else none

end FileTree

end TieredLedger
