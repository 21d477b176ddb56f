import TieredLedger.Block
import TieredLedger.Token

/-! Search in two layers: the terms that anyone may read, then the tokens that the password opens. Payloads are
never looked at. -/
namespace TieredLedger

structure BlockSource where
  all : Except LedgerError (List Block)
  find : UInt64 → Except LedgerError (Option Block)

namespace Search

def showsTerm (b : Block) (term : String) : Bool := b.keywords.any fun k => k.matchesTerm term

/-- Whether a word is a token that the password opens to a text with the term among its words. -/
def wordHolds (c : Codec) (password term word : String) : Bool :=
  c.looksEncrypted word &&
    match c.decrypt word password with
    | some text => (Text.words text).any fun w => Text.lowercase w == term
    | none => false

/-- Whether some token of a block holds the term. Only keywords made when the block was written are opened. -/
def hidesTerm (c : Codec) (password : String) (b : Block) (term : String) : Bool :=
  b.autoKeywords.any fun k =>
    match k with
    | .token blob => (Text.words blob).any (wordHolds c password term)
    | .term _ => false

def isFound (found : List Block) (b : Block) : Bool := found.any fun f => f.number == b.number

/-- Goes through the blocks and adds those that match, no number twice and no more than the limit. -/
def collect (limit : Nat) (isMatch : Block → Bool) : List Block → (found : List Block) → List Block
  | [], found => found
  | b :: rest, found =>
    if limit ≤ found.length then found
    else if !isFound found b && isMatch b then collect limit isMatch rest (found ++ [b])
    else collect limit isMatch rest found

def searchTerm (c : Codec) (blocks : List Block) (password : Option String) (limit : Nat) (found : List Block)
    (term : String) : List Block :=
  let term := Term.normal term
  if limit ≤ found.length ∨ term.isEmpty then found
  else
    let found := collect limit (fun b => showsTerm b term) blocks found
    match password with
    | none => found
    | some password => collect limit (fun b => hidesTerm c password b term) blocks found

def byTerms (c : Codec) (blocks : List Block) (terms : List String) (password : Option String) (limit : Nat) :
    List Block :=
  terms.foldl (searchTerm c blocks password limit) []

def inSource (c : Codec) (source : BlockSource) (terms : List String) (password : Option String) (limit : Nat) :
    Except LedgerError (List Block) :=
  source.all.map fun blocks => byTerms c blocks terms password limit

structure Query where
  terms : List String
  password : Option String
  limit : Nat
deriving DecidableEq, Repr

structure Outcome where
  index : Nat
  found : List Block
  error : Option LedgerError
deriving DecidableEq, Repr

structure Report where
  outcomes : List Outcome
deriving DecidableEq, Repr

def Report.succeeded (r : Report) : Nat := (r.outcomes.filter fun o => o.error.isNone).length

def Report.failed (r : Report) : Nat := r.outcomes.length - r.succeeded

/-- Runs several queries against the same blocks. If they cannot be read, every query says why. -/
def batch (c : Codec) (source : BlockSource) (queries : List Query) : Report :=
  match source.all with
  | .error e => ⟨queries.zipIdx.map fun (_, index) => ⟨index, [], some e⟩⟩
  | .ok blocks =>
    ⟨queries.zipIdx.map fun (q, index) => ⟨index, byTerms c blocks q.terms q.password q.limit, none⟩⟩

end Search

end TieredLedger
