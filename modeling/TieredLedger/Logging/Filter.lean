import TieredLedger.Text.Alphanumeric
import TieredLedger.Text.Number
import TieredLedger.Text.Pattern

/-! Log filters: parts with commas between them, each of which sets the level of a target, of a span with fields, or
of both. -/
namespace TieredLedger

def Pattern.Fault.message : Pattern.Fault → String
  | malformed => "error building NFA"
  | wordBoundary =>
    "unsupported regex feature for DFAs: cannot build DFAs for regexes with Unicode word boundaries; switch to ASCII "
      ++ "word boundaries, or heuristically enable Unicode word boundaries or use a different regex engine"

namespace LogFilter

inductive Fault
  /-- It names a level that there is not. -/
  | level
  /-- The value that a field is to have is no pattern. -/
  | field (fault : Pattern.Fault)
  /-- A part of it has no meaning. -/
  | directive
deriving DecidableEq, Repr

def Fault.message : Fault → String
  | level =>
    "error parsing level filter: expected one of \"off\", \"error\", \"warn\", \"info\", \"debug\", "
      ++ "\"trace\", or a number 0-5"
  | field fault => "invalid field filter: " ++ fault.message
  | directive => "invalid filter directive"

def levels : List String := ["off", "error", "warn", "info", "debug", "trace"]

def isLevel (s : String) : Bool := s.isEmpty || (Text.number? levels.length s).isSome || levels.contains s.toLower

def size (cs : List Char) : Nat := cs.foldl (fun n c => n + c.utf8Size) 0

def behind : (bytes : Nat) → List Char → List Char
  | 0, cs => cs
  | _, [] => []
  | bytes, c :: cs => behind (bytes - c.utf8Size) cs

/-- A part of a filter. Places in it count from its first character that is not white space, but what stands at a
place is looked up in the whole part: white space in front moves it back by as many bytes. -/
structure Part where
  whole : List Char
deriving DecidableEq, Repr

namespace Part

def inner (p : Part) : List Char := Text.trimmed p.whole

def lookUp (p : Part) (rest : List Char) : List Char := behind (size p.inner - size rest) p.whole

def checkLevel (p : Part) (rest : List Char) : Except Fault Unit :=
  if isLevel (String.ofList (p.lookUp rest)) then .ok () else .error .level

/-- The value that a field is to have, if it is given: what stands between its first two equals signs. -/
def value? (field : List Char) : Option (List Char) := (Text.pieces (· = '=') field)[1]?

def checkField (p : Part) (field rest : List Char) : Except Fault Unit :=
  let found := p.lookUp (field ++ rest)
  match value? (found.take (found.length - (behind (size field) found).length)) with
  | none => .ok ()
  | some value =>
    if Text.isFloat value then .ok ()
    else
      match Pattern.fault? value with
      | none => .ok ()
      | some fault => .error (.field fault)

def checkEnd (p : Part) : List Char → Except Fault Unit
  | [] => .ok ()
  | '=' :: rest => p.checkLevel rest
  | _ => .error .directive

/-- Checks the field of a span behind its opening brace, which may not be empty, and what follows. -/
def checkFields (p : Part) (cs : List Char) : Except Fault Unit :=
  match cs.takeWhile (· ≠ '\x7d'), cs.dropWhile (· ≠ '\x7d') with
  | c :: field, brace :: rest => do
    p.checkField (c :: field) (brace :: rest)
    match rest with
    | ']' :: rest => p.checkEnd rest
    | _ => throw .directive
  | _, _ => .error .directive

def checkSpan (p : Part) (cs : List Char) : Except Fault Unit :=
  match cs.dropWhile fun c => c ≠ ']' && c ≠ '\x7b' with
  | ']' :: rest => p.checkEnd rest
  | _ :: rest => p.checkFields rest
  | [] => .error .directive

def mayStart (c : Char) : Bool := Text.isAlphanumeric c || c = '-' || c = ':' || c = '_'

/-- Checks a part: a span, or a target, after which a span or a level may come. A lone level counts as a target. -/
def check (p : Part) : Except Fault Unit :=
  match p.inner with
  | [] => .error .directive
  | '[' :: rest => p.checkSpan rest
  | c :: rest =>
    if mayStart c then
      match rest.dropWhile fun c => c ≠ '=' && c ≠ '[' with
      | '=' :: rest => p.checkLevel rest
      | '[' :: rest => p.checkSpan rest
      | _ => .ok ()
    else .error .directive

end Part

def check (filter : String) : Except Fault Unit :=
  ((Text.pieces (· = ',') filter.toList).filter fun part => !part.isEmpty).forM fun part => (Part.mk part).check

end LogFilter

end TieredLedger
