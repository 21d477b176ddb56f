import TieredLedger.Deflate.Codebook
import TieredLedger.Deflate.Piece

/-! Compressed streams (RFC 1951): blocks of pieces, stored as they are or coded with a fixed codebook or with one
that the block itself describes. Reading takes every form; writing makes one block with the fixed codebook. -/
namespace TieredLedger.Deflate

structure Span where
  base : Nat
  extra : Nat
deriving DecidableEq, Repr

def spansFrom : (base : Nat) → (extras : List Nat) → List Span
  | _, [] => []
  | base, extra :: rest => ⟨base, extra⟩ :: spansFrom (base + Nat.pow 2 extra) rest

def lengthSpans : Array Span :=
  ((spansFrom 3 [0, 0, 0, 0, 0, 0, 0, 0, 1, 1, 1, 1, 2, 2, 2, 2, 3, 3, 3, 3, 4, 4, 4, 4, 5, 5, 5, 5])
    ++ [Span.mk 258 0]).toArray

def distanceSpans : Array Span :=
  (spansFrom 1
    [0, 0, 0, 0, 1, 1, 2, 2, 3, 3, 4, 4, 5, 5, 6, 6, 7, 7, 8, 8, 9, 9, 10, 10, 11, 11, 12, 12, 13, 13]).toArray

def endOfBlock : Nat := 256

def Span.read (spans : Array Span) (symbol : Nat) (bits : Bits) : Except Fault (Nat × Bits) :=
  match spans[symbol]? with
  | none => .error .corrupt
  | some span => do
    let (more, rest) ← bits.number span.extra
    return (span.base + more, rest)

def readCopy (distances : Codebook) (symbol : Nat) (bits : Bits) : Except Fault (Piece × Bits) := do
  let (length, bits) ← Span.read lengthSpans (symbol - (endOfBlock + 1)) bits
  let (symbol, bits) ← distances.next bits
  let (distance, bits) ← Span.read distanceSpans symbol bits
  return (.copy length distance, bits)

/-- Reads pieces to the end of a block, after those found so far, last first. Each takes a bit at least, which is
what the fuel counts. -/
def readPieces (literals distances : Codebook) :
    (fuel : Nat) → Bits → (found : List Piece) → Except Fault (List Piece × Bits)
  | 0, _, _ => .error .incomplete
  | fuel + 1, bits, found =>
    match literals.next bits with
    | .error fault => .error fault
    | .ok (symbol, rest) =>
      if symbol < endOfBlock then readPieces literals distances fuel rest (.literal (UInt8.ofNat symbol) :: found)
      else if symbol = endOfBlock then .ok (found, rest)
      else
        match readCopy distances symbol rest with
        | .error fault => .error fault
        | .ok (piece, rest) => readPieces literals distances fuel rest (piece :: found)

def readStored : (count : Nat) → Bits → (found : List Piece) → Except Fault (List Piece × Bits)
  | 0, bits, found => .ok (found, bits)
  | count + 1, bits, found =>
    match bits.number 8 with
    | .error fault => .error fault
    | .ok (byte, rest) => readStored count rest (.literal (UInt8.ofNat byte) :: found)

def fixedLiteralLengths : List Nat :=
  List.replicate 144 8 ++ List.replicate 112 9 ++ List.replicate 24 7 ++ List.replicate 8 8

def fixedLiterals : Codebook := (Codebook.ofLengths? fixedLiteralLengths).getD .empty

def fixedDistances : Codebook := (Codebook.ofLengths? (List.replicate 32 5)).getD .empty

def lengthOrder : List Nat := [16, 17, 18, 0, 8, 7, 9, 6, 10, 5, 11, 4, 12, 3, 13, 2, 14, 1, 15]

def readTriples : (count : Nat) → Bits → Except Fault (List Nat × Bits)
  | 0, bits => .ok ([], bits)
  | count + 1, bits => do
    let (n, bits) ← bits.number 3
    let (others, bits) ← readTriples count bits
    return (n :: others, bits)

/-- Reads code lengths, given one by one or in runs, until there are at least `wanted`; `found` holds them last
first. -/
def readLengths (book : Codebook) (wanted : Nat) :
    (fuel : Nat) → Bits → (found : List Nat) → Except Fault (List Nat × Bits)
  | 0, _, _ => .error .incomplete
  | fuel + 1, bits, found =>
    if wanted ≤ found.length then .ok (found.reverse, bits)
    else do
      let (symbol, bits) ← book.next bits
      if symbol < 16 then readLengths book wanted fuel bits (symbol :: found)
      else if symbol = 16 then
        match found with
        | [] => throw .corrupt
        | last :: _ =>
          let (more, bits) ← bits.number 2
          readLengths book wanted fuel bits (List.replicate (3 + more) last ++ found)
      else if symbol = 17 then
        let (more, bits) ← bits.number 3
        readLengths book wanted fuel bits (List.replicate (3 + more) 0 ++ found)
      else
        let (more, bits) ← bits.number 7
        readLengths book wanted fuel bits (List.replicate (11 + more) 0 ++ found)

def known (book? : Option Codebook) : Except Fault Codebook :=
  match book? with
  | some book => .ok book
  | none => .error .corrupt

def readBooks (bits : Bits) : Except Fault (Codebook × Codebook × Bits) := do
  let (n, bits) ← bits.number 5
  let (m, bits) ← bits.number 5
  let (k, bits) ← bits.number 4
  let literalCount := n + 257
  let distanceCount := m + 1
  if literalCount > 286 || distanceCount > 30 then throw .corrupt
  let (triples, bits) ← readTriples (k + 4) bits
  let given := lengthOrder.zip triples
  let book ← known (Codebook.ofLengths? ((List.range 19).map fun symbol => (given.lookup symbol).getD 0))
  if !book.isComplete then throw .corrupt
  let (lengths, bits) ← readLengths book (literalCount + distanceCount) (bits.length + 1) bits []
  if lengths.length ≠ literalCount + distanceCount then throw .corrupt
  let literals ← known (Codebook.ofLengths? (lengths.take literalCount))
  let distances ← known (Codebook.ofLengths? (lengths.drop literalCount))
  return (literals, distances, bits)

def readBlock (bits : Bits) (found : List Piece) : Except Fault (Bool × List Piece × Bits) := do
  let (last, bits) ← bits.number 1
  let (form, bits) ← bits.number 2
  match form with
  | 0 =>
    let (count, bits) ← bits.align.number 16
    let (check, bits) ← bits.number 16
    if count + check ≠ 0xFFFF then throw .corrupt
    let (found, bits) ← readStored count bits found
    return (last = 1, found, bits)
  | 1 =>
    let (found, bits) ← readPieces fixedLiterals fixedDistances (bits.length + 1) bits found
    return (last = 1, found, bits)
  | 2 =>
    let (literals, distances, bits) ← readBooks bits
    let (found, bits) ← readPieces literals distances (bits.length + 1) bits found
    return (last = 1, found, bits)
  | _ => throw .corrupt

def readBlocks : (fuel : Nat) → Bits → (found : List Piece) → Except Fault (List Piece)
  | 0, _, _ => .error .incomplete
  | fuel + 1, bits, found =>
    match readBlock bits found with
    | .error fault => .error fault
    | .ok (true, found, _) => .ok found.reverse
    | .ok (false, found, rest) => readBlocks fuel rest found

def readStream (bits : Bits) : Except Fault (List Piece) := readBlocks (bits.length + 1) bits []

def fixedLiteralCode (symbol : Nat) : Bits :=
  if symbol < 144 then (Bits.ofNat 8 (0x30 + symbol)).reverse
  else if symbol < 256 then (Bits.ofNat 9 (0x190 + (symbol - 144))).reverse
  else if symbol < 280 then (Bits.ofNat 7 (symbol - 256)).reverse
  else (Bits.ofNat 8 (0xC0 + (symbol - 280))).reverse

def fixedDistanceCode (symbol : Nat) : Bits := (Bits.ofNat 5 symbol).reverse

def spanOf (spans : Array Span) (n : Nat) : Nat × Span :=
  spans.toList.zipIdx.foldl (fun best (span, place) => if span.base ≤ n then (place, span) else best) (0, ⟨0, 0⟩)

def Span.write (spans : Array Span) (code : Nat → Bits) (n : Nat) : Bits :=
  let (place, span) := spanOf spans n
  code place ++ Bits.ofNat span.extra (n - span.base)

def Piece.write : Piece → Bits
  | .literal byte => fixedLiteralCode byte.toNat
  | .copy length distance =>
    Span.write lengthSpans (fun place => fixedLiteralCode (place + (endOfBlock + 1))) length
      ++ Span.write distanceSpans fixedDistanceCode distance

def writeStream (pieces : List Piece) : Bits :=
  [true, true, false] ++ pieces.flatMap Piece.write ++ fixedLiteralCode endOfBlock

def compress (bs : Bytes) : Bytes := (writeStream (Piece.split bs)).toBytes

def decompress (bs : Bytes) : Except Fault Bytes := (readStream (Bits.ofBytes bs)).map Piece.expand

end TieredLedger.Deflate
