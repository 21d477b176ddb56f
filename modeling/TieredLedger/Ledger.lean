import TieredLedger.Search
import TieredLedger.Visibility

/-! A ledger in memory: blocks linked by their hashes, to which blocks are only ever added. -/
namespace TieredLedger

/-- A ledger: its blocks in order, and the codec for hidden terms. -/
structure Ledger where
  blocks : List Block
  codec : Codec

abbrev LedgerM := ExceptT LedgerError (StateM Ledger)

namespace Ledger

def genesisPreviousHash : String := "0"

def create (codec : Codec) (now : Instant) : Ledger := ⟨[Block.create 0 genesisPreviousHash "genesis" now], codec⟩

def payloadCipher : TokenCipher := .forPayloads

def size (l : Ledger) : Nat := l.blocks.length

def nextBlock (blocks : List Block) (data : String) (now : Instant) : Block :=
  match blocks.getLast? with
  | some last => Block.create (last.number + 1) last.hash data now
  | none => Block.create 0 genesisPreviousHash data now

def push (l : Ledger) (b : Block) : Ledger := { l with blocks := l.blocks ++ [b] }

def plainBlock (l : Ledger) (data : String) (manual auto : List Keyword) (now : Instant) : Block :=
  { nextBlock l.blocks data now with manualKeywords := manual, autoKeywords := auto }

def appendPlain (l : Ledger) (data : String) (manual auto : List Keyword) (now : Instant) : Block × Ledger :=
  let b := l.plainBlock data manual auto now
  (b, l.push b)

/-- Puts the normal form of a term into a set. A blank term is passed over; one with white space inside is refused. -/
def addTerm (set : TermSet) (term : String) : Except LedgerError TermSet :=
  let term := Term.normal term
  if term.isEmpty then .ok set
  else if Text.hasBlank term then .error (.spacedTerm term)
  else .ok (set.insert term)

def normalTerms (terms : List String) : Except LedgerError TermSet := terms.foldlM addTerm ∅

/-- The keywords for terms that only the password shall find: one token for all of them together. -/
def tokenKeywords (codec : Codec) (draw : Draw) (password : String) : List String → Except LedgerError (List Keyword)
  | [] => .ok []
  | terms => (codec.encrypt draw (String.intercalate " " terms) password).map fun token => [.token token]

/-- Adds a block whose payload is sealed under a password, with keywords for its terms by their visibility. -/
def appendEncrypted (data password : String) (terms : List String) (visibility : VisibilityMap)
    (keywordDraw payloadDraw : Draw) (now : Instant) : LedgerM Block := do
  if password.isEmpty then throw .emptyPassword
  let split := visibility.partition (← normalTerms terms)
  let auto ← tokenKeywords (← get).codec keywordDraw password split.hidden
  let ciphertext ← payloadCipher.encrypt payloadDraw (Bytes.ofText data) password
  let b := { (nextBlock (← get).blocks ciphertext now).markEncrypted with
    manualKeywords := split.shown.map Keyword.ofTerm, autoKeywords := auto }
  modify fun l => l.push b
  return b

def decryptPayload (b : Block) (password : String) : Except LedgerError String :=
  if b.encrypted then
    match payloadCipher.decrypt b.data password with
    | .error e => .error e
    | .ok bytes =>
      match Utf8.decode bytes with
      | .ok text => .ok text
      | .error fault => .error (.payloadText fault)
  else .ok b.data

/-- Checks blocks that follow a given one: each has the hash of its contents and links to the block before it. -/
def verifyFrom (previous : Option Block) : List Block → Except LedgerError Unit
  | [] => .ok ()
  | b :: rest =>
    if !b.verifyHash then .error (.hashMismatch b.number)
    else
      match previous with
      | some p =>
        if b.previousHash = p.hash then verifyFrom (some b) rest else .error (.brokenLink b.number p.number)
      | none => verifyFrom (some b) rest

def verifyChain (blocks : List Block) : Except LedgerError Unit := verifyFrom none blocks

def block? (l : Ledger) (number : UInt64) : Option Block := l.blocks.find? fun b => b.number == number

def source (l : Ledger) : BlockSource := ⟨.ok l.blocks, fun number => .ok (l.block? number)⟩

end Ledger

end TieredLedger
