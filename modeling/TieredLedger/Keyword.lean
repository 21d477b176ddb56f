import TieredLedger.Json.Value
import TieredLedger.Text.Lowercase

/-! Search terms and their normal form, the keywords of a block, and the one-line field that held them in older
ledgers. -/
namespace TieredLedger

/-- The normal form of a term: no white space around it, and lower case. Terms with one normal form are the same
term to every part of the ledger. -/
def Term.normal (term : String) : String := Text.lowercase (Text.trim term)

inductive Keyword
  /-- A term that anyone may search for. -/
  | term (value : String)
  /-- Encrypted terms, found only with their password. -/
  | token (value : String)
deriving DecidableEq, Repr

namespace Keyword

def ofTerm (t : String) : Keyword := term (Term.normal t)

def isTerm : Keyword → Bool
  | term _ => true
  | token _ => false

/-- Whether a keyword is a readable term equal to the given one, but for case and white space around the latter. -/
def matchesTerm (k : Keyword) (t : String) : Bool :=
  match k with
  | term value => Text.lowercase value == Term.normal t
  | token _ => false

def termMark : String := "public:"

/-- Whether a word of a field begins with the mark, in letters of any case, and goes on after it. -/
def isMarked (word : List Char) : Bool :=
  word.length > termMark.length && (word.take termMark.length).map Char.toLower == termMark.toList

def ofWord (word : List Char) : Keyword :=
  if isMarked word then term (String.ofList (word.drop termMark.length)) else token (String.ofList word)

def parseField (field : String) : List Keyword := (Text.wordsOf field.toList).map ofWord

def inField : Keyword → String
  | term value => termMark ++ value
  | token value => value

def renderField (ks : List Keyword) : String := String.intercalate " " (ks.map inField)

def toJson (k : Keyword) : Json :=
  match k with
  | term value => .record [("visibility", .text "public"), ("value", .text value)]
  | token value => .record [("visibility", .text "private"), ("value", .text value)]

/-- Reads the kind of a keyword from its place in the given form: a choice, but in an array its bare name. -/
def kind? : (form : Json) → Json → Option String
  | .array _ => Json.text?
  | _ => Json.choice?

def ofJson? (j : Json) : Option Keyword := do
  match ← j.record? ["visibility", "value"] with
  | [visibility, value] =>
    let value ← Json.required Json.text? value
    match ← Json.required (kind? j) visibility with
    | "public" => some (term value)
    | "private" => some (token value)
    | _ => none
  | _ => none

end Keyword

end TieredLedger
