import TieredLedger.Bytes
import TieredLedger.Text.Blank

/-! How a stretch of a pattern is read, the flags that say so, how deep the parts of a pattern are nested, and what a
backslash makes of the characters behind it. -/
namespace TieredLedger.Pattern

def rowDepth : List Nat → Nat
  | [] => 0
  | [depth] => depth
  | depths => depths.foldl max 0 + 1

def maxDepth : Nat := 250

structure Mode where
  /-- Letters stand for both cases. -/
  caseless : Bool
  /-- What is matched are characters of all scripts, not bytes. -/
  unicode : Bool
  /-- White space and comments are passed over. -/
  spaced : Bool
deriving DecidableEq, Repr

namespace Mode

def standard : Mode := ⟨false, true, false⟩

def set (m : Mode) (flag : Char) (on : Bool) : Mode :=
  if flag = 'i' then { m with caseless := on }
  else if flag = 'u' then { m with unicode := on }
  else if flag = 'x' then { m with spaced := on }
  else m

def skipSpace : (inComment : Bool) → List Char → List Char
  | _, [] => []
  | true, c :: cs => skipSpace (c ≠ '\n') cs
  | false, c :: cs => if c = '#' then skipSpace true cs else if Text.isBlank c then skipSpace false cs else c :: cs

def gap (m : Mode) (cs : List Char) : List Char := if m.spaced then skipSpace false cs else cs

/-- The next character that is not white space, as a dash in a class sees it: the sign that begins a comment is passed
over, the comment is not. -/
def glance (m : Mode) : (inComment : Bool) → List Char → Option Char
  | _, [] => none
  | inComment, c :: cs =>
    if m.spaced && Text.isBlank c then glance m inComment cs
    else if m.spaced && !inComment && c = '#' then glance m true cs
    else some c

/-- Whether a character may stand for itself: nothing is known of the cases of letters of all scripts. -/
def knowsCases (m : Mode) : Bool := !(m.unicode && m.caseless)

/-- Reads flags, after those seen so far, up to a colon or the end of the group; `true` tells that it was a colon. A
dash turns the flags behind it off; no flag is given twice, nor a dash in vain. -/
def readFlags (m : Mode) (seen : List Char) : List Char → Option (Mode × Bool × List Char)
  | [] => none
  | ':' :: rest => if seen.head? = some '-' then none else some (m, true, rest)
  | ')' :: rest => if seen = [] ∨ seen.head? = some '-' then none else some (m, false, rest)
  | c :: rest =>
    if seen.contains c || !("-imsUuRx".toList.contains c) then none
    else readFlags (if c = '-' then m else m.set c (!seen.contains '-')) (c :: seen) rest

end Mode

inductive Escape
  /-- A character, given as a byte or not. -/
  | char (c : Char) (asByte : Bool)
  /-- The digits, the blanks or the characters of words, or all but those. -/
  | set (negated : Bool)
  /-- The beginning or the end of the text. -/
  | edge
  /-- The beginning or the end of a word. -/
  | boundary
deriving DecidableEq, Repr

namespace Escape

def readHex (m : Mode) : (count found : Nat) → List Char → Option (Nat × List Char)
  | 0, found, cs => some (found, cs)
  | count + 1, found, cs =>
    match m.gap cs with
    | [] => none
    | c :: cs => (Bytes.hexValue? c).bind fun digit => readHex m count (16 * found + digit) cs

def readNumber (m : Mode) (count : Nat) (cs : List Char) : Option (Escape × List Char) := do
  let (n, cs) ← readHex m count 0 cs
  if n.isValidChar then some (char (Char.ofNat n) (count = 2), cs) else none

def control? : Char → Option Char
  | 'a' => some '\x07'
  | 'f' => some '\x0C'
  | 'n' => some '\n'
  | 'r' => some '\r'
  | 't' => some '\t'
  | 'v' => some '\x0B'
  | _ => none

def read (m : Mode) : List Char → Option (Escape × List Char)
  | [] => none
  | c :: cs =>
    if c = 'x' then readNumber m 2 cs
    else if c = 'u' then readNumber m 4 cs
    else if c = 'U' then readNumber m 8 cs
    else if "dsw".toList.contains c then some (set false, cs)
    else if "DSW".toList.contains c then some (set true, cs)
    else if c = 'A' ∨ c = 'z' then some (edge, cs)
    else if "bB<>".toList.contains c then some (boundary, cs)
    else
      match control? c with
      | some d => some (char d false, cs)
      | none => if c.toNat < 128 ∧ !c.isAlphanum then some (char c false, cs) else none

def isAllowed (m : Mode) : Escape → Bool
  | char c asByte => if m.unicode then !m.caseless else !(asByte && c.toNat ≥ 128)
  | set negated => !m.unicode && !negated
  | edge => true
  | boundary => true

end Escape

end TieredLedger.Pattern
