import Mathlib.Algebra.Group.Nat.Defs
import Mathlib.Data.List.Induction
import TieredLedger.Deflate.Stream
import TieredLedger.Proofs.Deflate.Piece

/-! A compressed stream is read back into the data it was made of. -/
namespace TieredLedger.Deflate

namespace Bits

/-- The bits of the number that bits spell are those bits, and zeros after them. -/
theorem ofNat_toNat {count : Nat} {bits : Bits} (h : bits.length ≤ count) :
    ofNat count (toNat bits) = bits ++ List.replicate (count - bits.length) false := by
  induction count generalizing bits with
  | zero =>
    rw [List.eq_nil_of_length_eq_zero (Nat.le_zero.1 h)]
    rfl
  | succ count ih =>
    cases bits with
    | nil =>
      have hzeros : ofNat count (toNat []) = [] ++ List.replicate count false := ih (Nat.zero_le count)
      rw [ofNat, toNat, Nat.zero_div]
      exact congrArg (false :: ·) hzeros
    | cons b rest =>
      have hlow : (b.toNat + 2 * toNat rest) % 2 = b.toNat := by cases b <;> simp
      have hhigh : (b.toNat + 2 * toNat rest) / 2 = toNat rest := by
        have hb := Bool.toNat_lt b
        omega
      rw [ofNat, toNat, hlow, hhigh, ih (Nat.le_of_succ_le_succ h), List.length_cons, Nat.add_sub_add_right]
      cases b <;> rfl

private theorem toNat_lt (bits : Bits) : toNat bits < 2 ^ bits.length := by
  induction bits with
  | nil => exact Nat.one_pos
  | cons b rest ih =>
    have hb := Bool.toNat_lt b
    rw [toNat, List.length_cons, Nat.pow_succ]
    omega

private theorem ofBytes_append (as bs : Bytes) : ofBytes (as ++ bs) = ofBytes as ++ ofBytes bs := List.flatMap_append

private theorem ofBytes_byte {bits : Bits} (h : bits.length ≤ 8) :
    ofBytes [UInt8.ofNat (toNat bits)] = bits ++ List.replicate (8 - bits.length) false := by
  have hlt : toNat bits < 256 :=
    Nat.lt_of_lt_of_le (toNat_lt bits) (Nat.pow_le_pow_right Nat.two_pos h)
  have hbyte : (UInt8.ofNat (toNat bits)).toNat = toNat bits := UInt8.toNat_ofNat_of_lt' hlt
  rw [ofBytes, List.flatMap_singleton, hbyte, ofNat_toNat h]

private theorem ofBytes_packOnto (packed : Bytes) (bits : Bits) :
    ∃ zeros, ofBytes (packOnto packed bits) = ofBytes packed.reverse ++ bits ++ List.replicate zeros false := by
  induction packed, bits using packOnto.induct with
  | case1 packed a b c d e f g h rest ih =>
    obtain ⟨zeros, hzeros⟩ := ih
    have hbyte : ofBytes [UInt8.ofNat (toNat [a, b, c, d, e, f, g, h])] = [a, b, c, d, e, f, g, h] := ofBytes_byte (by simp)
    refine ⟨zeros, ?_⟩
    rw [packOnto, hzeros, List.reverse_cons, ofBytes_append, hbyte]
    simp
  | case2 packed => exact ⟨0, by simp [packOnto]⟩
  | case3 packed bits hlong hne =>
    have hshort : bits.length ≤ 8 := by
      by_contra hmore
      match bits with
      | a :: b :: c :: d :: e :: f :: g :: h :: rest => exact hlong a b c d e f g h rest rfl
      | [] | [_] | [_, _] | [_, _, _] | [_, _, _, _] | [_, _, _, _, _] | [_, _, _, _, _, _] | [_, _, _, _, _, _, _] =>
        simp at hmore
    refine ⟨8 - bits.length, ?_⟩
    rw [packOnto.eq_3 packed bits hlong hne, List.reverse_cons, ofBytes_append, ofBytes_byte hshort, List.append_assoc]

/-- Packing bits into bytes loses none and adds only zeros. -/
theorem ofBytes_toBytes (bits : Bits) : ∃ zeros, ofBytes (toBytes bits) = bits ++ List.replicate zeros false :=
  ofBytes_packOnto [] bits

private theorem number_append {count : Nat} {front : Bits} (hfront : front.length = count) (rest : Bits) :
    number count (front ++ rest) = .ok (toNat front, rest) := by
  subst hfront
  rw [number, List.splitAt_eq, List.take_left, List.drop_left]
  exact if_neg (Nat.lt_irrefl _)

private theorem number_ofNat {count n : Nat} (hn : n < 2 ^ count) (rest : Bits) :
    number count (ofNat count n ++ rest) = .ok (n, rest) := by
  rw [number_append (length_ofNat count n), toNat_ofNat]
  exact congrArg (fun m => Except.ok (m, rest)) (Nat.mod_eq_of_lt hn)

end Bits

namespace Codebook

variable {book : Codebook} {levels : List (Array Nat)} {above symbol : Nat} {bits rest : Bits}

private theorem walk_append (h : walk levels above bits = .ok (symbol, rest)) (more : Bits) :
    walk levels above (bits ++ more) = .ok (symbol, rest ++ more) := by
  induction levels generalizing above bits with
  | nil => cases h
  | cons level deeper ih =>
    cases bits with
    | nil => cases h
    | cons b bits =>
      rw [walk] at h
      rw [List.cons_append, walk]
      cases hplace : level[2 * above + b.toNat]? with
      | some s =>
        rw [hplace] at h
        cases h
        rfl
      | none =>
        rw [hplace] at h
        exact ih h

/-- Reading a symbol looks no further than its code. -/
theorem next_append (h : book.next bits = .ok (symbol, rest)) (more : Bits) :
    book.next (bits ++ more) = .ok (symbol, rest ++ more) := by
  cases book with
  | complete levels => exact walk_append h more
  | empty => cases bits <;> cases h
  | single s =>
    cases bits with
    | nil => cases h
    | cons b bits =>
      cases b <;> cases h
      rfl

end Codebook

private theorem eq_ok_of_toOption {ε α : Type} {x : Except ε α} {a : α} (h : x.toOption = some a) : x = .ok a := by
  cases x with
  | error e => cases h
  | ok b => exact congrArg Except.ok (Option.some.inj h)

private theorem fixedLiterals_codes :
    ∀ s < 286, (fixedLiterals.next (fixedLiteralCode s)).toOption = some (s, []) := by decide +kernel

private theorem fixedDistances_codes :
    ∀ s < 30, (fixedDistances.next (fixedDistanceCode s)).toOption = some (s, []) := by decide +kernel

private theorem next_fixedLiteralCode {s : Nat} (hs : s < 286) (rest : Bits) :
    fixedLiterals.next (fixedLiteralCode s ++ rest) = .ok (s, rest) :=
  Codebook.next_append (eq_ok_of_toOption (fixedLiterals_codes s hs)) rest

private theorem next_fixedDistanceCode {s : Nat} (hs : s < 30) (rest : Bits) :
    fixedDistances.next (fixedDistanceCode s ++ rest) = .ok (s, rest) :=
  Codebook.next_append (eq_ok_of_toOption (fixedDistances_codes s hs)) rest

def Covers (spans : Array Span) (low high : Nat) : Prop :=
  spans[0]?.map (·.base) = some low ∧ ∀ place : Fin spans.size,
    (spans[place.val + 1]?.map (·.base)).getD (high + 1) ≤ spans[place].base + 2 ^ spans[place].extra

private theorem covers_lengthSpans : Covers lengthSpans Piece.minLength Piece.maxLength := by
  rw [Covers]
  decide

private theorem covers_distanceSpans : Covers distanceSpans 1 Piece.maxDistance := by
  rw [Covers]
  decide

private theorem foldl_spanOf (spans : List Span) (n : Nat) (hfirst : ∃ s ∈ spans, s.base ≤ n) :
    ∃ place span, spans.zipIdx.foldl (fun best (span, place) => if span.base ≤ n then (place, span) else best)
        (0, ⟨0, 0⟩) = (place, span) ∧ spans[place]? = some span ∧ span.base ≤ n ∧
      ∀ later > place, ∀ s, spans[later]? = some s → n < s.base := by
  induction spans using List.reverseRecOn with
  | nil => simp at hfirst
  | append_singleton spans last ih =>
    rw [List.zipIdx_append, List.foldl_append]
    by_cases hlast : last.base ≤ n
    · refine ⟨spans.length, last, by simp [hlast], by simp, hlast, fun later hlater s hs => ?_⟩
      rw [List.getElem?_eq_none (by simp; omega)] at hs
      cases hs
    · obtain ⟨s, hs, hbase⟩ := hfirst
      have hearlier : s ∈ spans := by
        rcases List.mem_append.1 hs with hs | hs
        · exact hs
        · rw [List.mem_singleton.1 hs] at hbase
          exact absurd hbase hlast
      obtain ⟨place, span, hfold, hplace, hspan, hlater⟩ := ih ⟨s, hearlier, hbase⟩
      have hlt : place < spans.length := (List.getElem?_eq_some_iff.1 hplace).1
      refine ⟨place, span, by simp [hfold, hlast], by rwa [List.getElem?_append_left hlt], hspan, ?_⟩
      intro later hgt t ht
      by_cases hin : later < spans.length
      · rw [List.getElem?_append_left hin] at ht
        exact hlater later hgt t ht
      · rw [List.getElem?_append_right (Nat.le_of_not_lt hin)] at ht
        rw [List.mem_singleton.1 (List.mem_of_getElem? ht)]
        exact Nat.lt_of_not_le hlast

/-- A number that spans cover has a span that holds it. -/
theorem spanOf_of_covers {spans : Array Span} {low high n : Nat} (hcovers : Covers spans low high) (hlow : low ≤ n)
    (hhigh : n ≤ high) : ∃ place span, spanOf spans n = (place, span) ∧ spans[place]? = some span ∧ span.base ≤ n ∧
      n - span.base < 2 ^ span.extra := by
  obtain ⟨hfirst, hnext⟩ := hcovers
  have hhas : ∃ s ∈ spans.toList, s.base ≤ n := by
    obtain ⟨s, hs, hbase⟩ := Option.map_eq_some_iff.1 hfirst
    exact ⟨s, Array.mem_toList_iff.2 (Array.mem_of_getElem? hs), by omega⟩
  obtain ⟨place, span, hfold, hplace, hbase, hlater⟩ := foldl_spanOf spans.toList n hhas
  rw [Array.getElem?_toList] at hplace
  refine ⟨place, span, hfold, hplace, hbase, ?_⟩
  obtain ⟨hlt, hspan⟩ := Array.getElem?_eq_some_iff.1 hplace
  have hroom := hnext ⟨place, hlt⟩
  rw [Fin.getElem_fin, hspan] at hroom
  cases hafter : spans[place + 1]? with
  | none =>
    rw [hafter] at hroom
    simp only [Option.map_none, Option.getD_none] at hroom
    omega
  | some after =>
    have habove := hlater (place + 1) (Nat.lt_succ_self place) after (by rwa [Array.getElem?_toList])
    rw [hafter] at hroom
    simp only [Option.map_some, Option.getD_some] at hroom
    omega

private theorem Span.read_write {spans : Array Span} {low high n : Nat} (hcovers : Covers spans low high)
    (hlow : low ≤ n) (hhigh : n ≤ high) (code : Nat → Bits) (rest : Bits) :
    ∃ place < spans.size, ∃ extra, Span.write spans code n = code place ++ extra ∧
      Span.read spans place (extra ++ rest) = .ok (n, rest) := by
  obtain ⟨place, span, hspanOf, hplace, hbase, hextra⟩ := spanOf_of_covers hcovers hlow hhigh
  refine ⟨place, (Array.getElem?_eq_some_iff.1 hplace).1, Bits.ofNat span.extra (n - span.base), ?_, ?_⟩
  · rw [write, hspanOf]
  · rw [read, hplace]
    simp only [bind, Except.bind, Bits.number_ofNat hextra, Nat.add_sub_cancel' hbase]
    rfl

private theorem fixedLiteralCode_ne_nil (s : Nat) : fixedLiteralCode s ≠ [] := by
  intro h
  have hlength := congrArg List.length h
  rw [fixedLiteralCode] at hlength
  split at hlength
  · simp at hlength
  · split at hlength
    · simp at hlength
    · split at hlength <;> simp at hlength

private theorem one_le_length_write (p : Piece) : 1 ≤ p.write.length := by
  have hcode : ∀ s, 1 ≤ (fixedLiteralCode s).length := fun s =>
    List.length_pos_iff.2 (fixedLiteralCode_ne_nil s)
  cases p with
  | literal byte => exact hcode byte.toNat
  | copy length distance =>
    rw [Piece.write, Span.write, List.length_append, List.length_append]
    have hlength := hcode ((spanOf lengthSpans length).1 + (endOfBlock + 1))
    omega

/-- A stream has a bit at least for each of its pieces. -/
theorem length_le_length_flatMap_write (pieces : List Piece) : pieces.length ≤ (pieces.flatMap Piece.write).length := by
  induction pieces with
  | nil => exact Nat.le_refl 0
  | cons p pieces ih =>
    have hp := one_le_length_write p
    rw [List.flatMap_cons, List.length_append, List.length_cons]
    omega

private theorem readCopy_write {length distance : Nat} (h : (Piece.copy length distance).InRange) (rest : Bits) :
    ∃ symbol > endOfBlock, ∃ more,
      fixedLiterals.next (Piece.write (.copy length distance) ++ rest) = .ok (symbol, more) ∧
        readCopy fixedDistances symbol more = .ok (.copy length distance, rest) := by
  obtain ⟨⟨hmin, hmax⟩, hone, hfar⟩ := h
  obtain ⟨dplace, hdplace, dextra, hdwrite, hdread⟩ :=
    Span.read_write covers_distanceSpans hone hfar fixedDistanceCode rest
  obtain ⟨lplace, hlplace, lextra, hlwrite, hlread⟩ :=
    Span.read_write covers_lengthSpans hmin hmax (fun place => fixedLiteralCode (place + (endOfBlock + 1)))
      (fixedDistanceCode dplace ++ dextra ++ rest)
  have hlsize : lengthSpans.size = 29 := by decide
  have hdsize : distanceSpans.size = 30 := by decide
  have hcode := next_fixedLiteralCode (s := lplace + (endOfBlock + 1)) (by rw [endOfBlock]; omega)
    (lextra ++ (fixedDistanceCode dplace ++ dextra ++ rest))
  refine ⟨lplace + (endOfBlock + 1), by omega, lextra ++ (fixedDistanceCode dplace ++ dextra ++ rest), ?_, ?_⟩
  · rw [Piece.write, hlwrite, hdwrite, ← hcode]
    simp only [List.append_assoc]
  · have hdcode := next_fixedDistanceCode (s := dplace) (by omega) (dextra ++ rest)
    rw [← List.append_assoc] at hdcode
    rw [readCopy, Nat.add_sub_cancel, hlread]
    simp only [bind, Except.bind, hdcode, hdread]
    rfl

section Reading

variable {literals distances : Codebook} {bits more rest : Bits} {symbol : Nat} {piece : Piece}

private theorem readPieces_succ (fuel : Nat) (found : List Piece) :
    readPieces literals distances (fuel + 1) bits found =
      match literals.next bits with
      | .error fault => .error fault
      | .ok (symbol, rest) =>
        if symbol < endOfBlock then readPieces literals distances fuel rest (.literal (UInt8.ofNat symbol) :: found)
        else if symbol = endOfBlock then .ok (found, rest)
        else
          match readCopy distances symbol rest with
          | .error fault => .error fault
          | .ok (piece, rest) => readPieces literals distances fuel rest (piece :: found) := by
  -- Reading a copy subtracts 257, which unfolding would count down; so that part becomes a variable first.
  generalize hcopy : readCopy = copy
  delta readPieces readPieces._f
  rewrite [hcopy]
  rfl

private theorem readPieces_literal (hnext : literals.next bits = .ok (symbol, rest)) (hsymbol : symbol < endOfBlock)
    (fuel : Nat) (found : List Piece) : readPieces literals distances (fuel + 1) bits found =
      readPieces literals distances fuel rest (.literal (UInt8.ofNat symbol) :: found) := by
  rw [readPieces_succ, hnext]
  dsimp only
  rw [if_pos hsymbol]

private theorem readPieces_copy (hnext : literals.next bits = .ok (symbol, more)) (hsymbol : endOfBlock < symbol)
    (hcopy : readCopy distances symbol more = .ok (piece, rest)) (fuel : Nat) (found : List Piece) :
    readPieces literals distances (fuel + 1) bits found = readPieces literals distances fuel rest (piece :: found) := by
  rw [readPieces_succ, hnext]
  dsimp only
  rw [if_neg (Nat.not_lt.2 (Nat.le_of_lt hsymbol)), if_neg (Nat.ne_of_gt hsymbol), hcopy]

private theorem readPieces_end (hnext : literals.next bits = .ok (endOfBlock, rest)) (fuel : Nat)
    (found : List Piece) : readPieces literals distances (fuel + 1) bits found = .ok (found, rest) := by
  rw [readPieces_succ, hnext]
  dsimp only
  rw [if_neg (Nat.lt_irrefl _), if_pos rfl]

end Reading

private theorem readPieces_piece {p : Piece} (hp : p.InRange) (fuel : Nat) (rest : Bits) (found : List Piece) :
    readPieces fixedLiterals fixedDistances (fuel + 1) (p.write ++ rest) found =
      readPieces fixedLiterals fixedDistances fuel rest (p :: found) := by
  cases p with
  | literal byte =>
    have hlow : byte.toNat < endOfBlock := byte.toNat_lt
    have hcode : byte.toNat < 286 := Nat.lt_trans hlow (by decide)
    rw [Piece.write, readPieces_literal (next_fixedLiteralCode hcode rest) hlow, UInt8.ofNat_toNat]
  | copy length distance =>
    obtain ⟨symbol, hsymbol, more, hnext, hcopy⟩ := readCopy_write hp rest
    exact readPieces_copy hnext hsymbol hcopy fuel found

/-- A block is read piece by piece: each was written as a symbol of its own, and the fuel is enough for all. -/
theorem readPieces_write {pieces : List Piece} (hrange : ∀ p ∈ pieces, p.InRange) {fuel : Nat}
    (hfuel : pieces.length < fuel) (rest : Bits) (found : List Piece) :
    readPieces fixedLiterals fixedDistances fuel (pieces.flatMap Piece.write ++ (fixedLiteralCode endOfBlock ++ rest))
      found = .ok (pieces.reverse ++ found, rest) := by
  induction pieces generalizing fuel found with
  | nil =>
    cases fuel with
    | zero => cases hfuel
    | succ fuel => exact readPieces_end (next_fixedLiteralCode (by decide) rest) fuel found
  | cons p pieces ih =>
    cases fuel with
    | zero => cases hfuel
    | succ fuel =>
      have hrest := ih (fun q hq => hrange q (List.mem_cons_of_mem p hq)) (Nat.lt_of_succ_lt_succ hfuel) (p :: found)
      rw [List.flatMap_cons, List.append_assoc, readPieces_piece (hrange p List.mem_cons_self), hrest,
        List.reverse_cons, List.append_assoc, List.singleton_append]

/-- A stream of pieces is read back, whatever follows it. -/
theorem readStream_writeStream {pieces : List Piece} (hrange : ∀ p ∈ pieces, p.InRange) (rest : Bits) :
    readStream (writeStream pieces ++ rest) = .ok pieces := by
  let body := pieces.flatMap Piece.write ++ (fixedLiteralCode endOfBlock ++ rest)
  have hbits : writeStream pieces ++ rest = true :: true :: false :: body := by
    simp [writeStream, body]
  have hlast : Bits.number 1 (true :: true :: false :: body) = .ok (1, true :: false :: body) :=
    @Bits.number_append 1 [true] rfl _
  have hform : Bits.number 2 (true :: false :: body) = .ok (1, body) := @Bits.number_append 2 [true, false] rfl body
  have hfuel : pieces.length < body.length + 1 := by
    have hlength := length_le_length_flatMap_write pieces
    rw [List.length_append]
    omega
  have hread : readPieces fixedLiterals fixedDistances (body.length + 1) body [] = .ok (pieces.reverse, rest) := by
    rw [readPieces_write hrange hfuel, List.append_nil]
  have hblock : readBlock (true :: true :: false :: body) [] = .ok (true, pieces.reverse, rest) := by
    rw [readBlock, hlast]
    simp only [bind, Except.bind, hform, hread]
    rfl
  rw [readStream, readBlocks, hbits, hblock]
  exact congrArg Except.ok (List.reverse_reverse pieces)

/-- An encoder of compressed streams: inflating undoes it, whatever blocks, matches and codebooks it chooses. -/
def IsEncoder (deflate : Bytes → Bytes) : Prop := ∀ bs, decompress (deflate bs) = .ok bs

/-- The encoder with the fixed codebook is one. -/
theorem isEncoder_compress : IsEncoder compress := by
  intro bs
  obtain ⟨zeros, hzeros⟩ := Bits.ofBytes_toBytes (writeStream (Piece.split bs))
  rw [decompress, compress, hzeros, readStream_writeStream fun p hp => Piece.inRange_of_mem_split hp]
  exact congrArg Except.ok (Piece.expand_split bs)

end TieredLedger.Deflate
